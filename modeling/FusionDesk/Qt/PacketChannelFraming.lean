import FusionDesk.Qt.PacketChannel

/-!
# What the packet channel makes of a byte stream

The socket cuts the stream wherever it likes, so the channel should read the same packets off every
way of cutting it.

* `onBytesAll_encode`: a stream of encoded packets is read back packet by packet, whatever the cuts.
* `onBytesAll_chunks`: for an arbitrary stream the cuts do not matter exactly when nothing follows
  the first refused header.

A header that is refused empties the whole buffer, so how much of what follows is thrown away
depends on how much has arrived.  A frame whose checksum or contents are wrong has a good header and
is dropped alone.
-/

namespace FusionDesk
namespace Qt

open Protocol StreamFraming

namespace QtPacketChannel

/-- The calls of `onBytes` for the chunks the socket delivers. -/
def onBytesAll (channel : QtPacketChannel) (chunks : List ByteBuffer) : QtPacketChannel :=
  chunks.foldl onBytes channel

/-- The stream from its first refused header on, if there is one: bad magic, header length or
version, or a payload over the limit. -/
def refusedFrom (codec : PacketCodec) (stream : ByteBuffer) : Option ByteBuffer :=
  (frames codec).rejection stream

/-! ## A run over chunks -/

theorem onBytesAll_record (channel : QtPacketChannel) (events : List FrameEvent)
    (inbound : ByteBuffer) (chunks : List ByteBuffer) :
    onBytesAll { channel.record events with inbound := inbound } chunks =
      { channel.record ((frames channel.codec).receiveAll (events, inbound) chunks).1 with
        inbound := ((frames channel.codec).receiveAll (events, inbound) chunks).2 } := by
  induction chunks generalizing events inbound with
  | nil => rfl
  | cons chunk chunks ih =>
    have hstep : onBytes { channel.record events with inbound := inbound } chunk =
        { channel.record (events ++ ((frames channel.codec).walk (inbound ++ chunk)).1) with
          inbound := ((frames channel.codec).walk (inbound ++ chunk)).2 } := by
      rw [onBytes_eq, ← record_record]
      rfl
    rw [onBytesAll, List.foldl_cons, hstep]
    exact ih _ _

/-- **A run of the channel is a run of the framer.** -/
theorem onBytesAll_eq (channel : QtPacketChannel) (chunks : List ByteBuffer) :
    onBytesAll channel chunks =
      { channel.record ((frames channel.codec).receiveAll ([], channel.inbound) chunks).1 with
        inbound := ((frames channel.codec).receiveAll ([], channel.inbound) chunks).2 } := by
  have h := onBytesAll_record channel [] channel.inbound chunks
  rw [record_nil] at h
  exact h

theorem onBytesAll_singleton (channel : QtPacketChannel) (bytes : ByteBuffer) :
    onBytesAll channel [bytes] = onBytes channel bytes := rfl

/-! ## A stream of packets -/

section Packets

variable {codec : PacketCodec}

/-- An encoded packet at the front of the buffer is a frame, and its event is the packet. -/
theorem look_encode_append (packet : PacketEnvelope) (rest : ByteBuffer)
    (hvalid : (validate codec.validationOptions packet).valid = true)
    (hlen : packet.payload.length < 2 ^ 32) :
    look codec (codec.encode packet ++ rest) =
      .frame (codec.encode packet).length (.packet packet) := by
  have hframe := PacketCodec.inspectFrame_encode packet hvalid hlen
  have hinspect : codec.inspectFrame (codec.encode packet ++ rest) =
      codec.inspectFrame (codec.encode packet) :=
    PacketCodec.inspectFrame_append rest (by rw [hframe]; simp)
  have hevent : frameEvent codec (codec.encode packet) = .packet packet := by
    rw [frameEvent, PacketCodec.decode_encode codec packet hvalid hlen]
    rfl
  rw [look_of_ok (by rw [hinspect, hframe]), hinspect, hframe, ← PacketCodec.length_encode codec,
    List.take_left, hevent]

/-- A stream of encoded packets is walked packet by packet, with nothing refused. -/
theorem walk_encode (packets : List PacketEnvelope)
    (hvalid : ∀ packet ∈ packets, (validate codec.validationOptions packet).valid = true ∧
      packet.payload.length < 2 ^ 32) :
    (frames codec).walk (packets.map codec.encode).flatten = (packets.map .packet, []) ∧
      (frames codec).rejection (packets.map codec.encode).flatten = none := by
  induction packets with
  | nil => exact ⟨Framer.walk_nil, Framer.rejection_wait (frames codec).look_nil⟩
  | cons packet packets ih =>
    obtain ⟨hpacket, hlen⟩ := hvalid packet List.mem_cons_self
    obtain ⟨hwalk, hrej⟩ := ih fun p hp => hvalid p (List.mem_cons_of_mem _ hp)
    have hlook : (frames codec).look
        (codec.encode packet ++ (packets.map codec.encode).flatten) =
          .frame (codec.encode packet).length (.packet packet) := by
      rw [frames_look]
      exact look_encode_append packet _ hpacket hlen
    rw [List.map_cons, List.flatten_cons, Framer.walk_frame hlook, Framer.rejection_frame hlook,
      List.drop_left, hwalk]
    exact ⟨rfl, hrej⟩

/-- **Encoded packets come through, whatever the cuts**: each is submitted once, in order and field
for field, nothing fails and nothing is left in the buffer. -/
theorem onBytesAll_encode (channel : QtPacketChannel) (packets : List PacketEnvelope)
    (chunks : List ByteBuffer) (submitted : List PacketEnvelope)
    (hrouter : channel.ingressRouter = some submitted) (hinbound : channel.inbound = [])
    (hvalid : ∀ packet ∈ packets,
      (validate channel.codec.validationOptions packet).valid = true ∧
        packet.payload.length < 2 ^ 32)
    (hchunks : chunks.flatten = (packets.map channel.codec.encode).flatten) :
    onBytesAll channel chunks = { channel with
      ingressRouter := some (submitted ++ packets)
      decodedPackets := channel.decodedPackets + packets.length } := by
  obtain ⟨hwalk, hrej⟩ := walk_encode packets hvalid
  have hrun := Framer.receiveAll_of_none [] [] chunks (frames channel.codec).look_nil
    (by rw [List.nil_append, hchunks]; exact hrej)
  have hpackets : packetsOf (packets.map .packet) = packets := by
    rw [packetsOf, List.filterMap_map]
    exact List.filterMap_some
  have hfailures : (packets.map FrameEvent.packet).count .failure = 0 := by
    rw [List.count_eq_zero, List.mem_map]
    rintro ⟨packet, -, hp⟩
    cases hp
  rw [List.nil_append, List.nil_append, hchunks, hwalk] at hrun
  rw [onBytesAll_eq, hinbound, hrun, record, hpackets, hfailures, hrouter, ← hinbound]
  rfl

/-- Two packets, cut inside the first header, with an empty chunk, and one byte into the second. -/
theorem onBytesAll_encode_two :
    onBytesAll { ingressRouter := some [] }
      [(PacketCodec.encode {} { sessionId := 7, channelId := 1, payload := [1, 2] }).take 40, [],
        (PacketCodec.encode {} { sessionId := 7, channelId := 1, payload := [1, 2] }).drop 40 ++
          (PacketCodec.encode {} { sessionId := 8, channelId := 1 }).take 1,
        (PacketCodec.encode {} { sessionId := 8, channelId := 1 }).drop 1] =
      { ingressRouter := some [{ sessionId := 7, channelId := 1, payload := [1, 2] },
          { sessionId := 8, channelId := 1 }]
        decodedPackets := 2 } :=
  onBytesAll_encode { ingressRouter := some [] }
    [{ sessionId := 7, channelId := 1, payload := [1, 2] }, { sessionId := 8, channelId := 1 }]
    _ [] rfl rfl (by decide) (by decide +kernel)

end Packets

/-! ## An arbitrary stream -/

section Streams

variable {codec : PacketCodec}

/-- A refused front is prompt when it is a header and nothing more. -/
theorem prompt_iff_length {refused : ByteBuffer} {e : FrameEvent}
    (h : look codec refused = .reject e) :
    (frames codec).Prompt refused ↔ refused.length = 100 := by
  obtain ⟨hinc, hok, rfl⟩ := look_reject_iff.mp h
  have hlen := PacketCodec.length_of_inspectFrame hinc
  constructor
  · intro hprompt
    by_contra hne
    have htake : refused.take 100 ≠ refused := by
      intro heq
      have hshort := congrArg List.length heq
      rw [List.length_take] at hshort
      omega
    have hwait := look_wait_iff.mp (hprompt _ (List.take_prefix 100 refused) htake)
    rw [PacketCodec.inspectFrame_take hok hinc] at hwait
    exact hinc hwait
  · intro hlength q hq hne
    refine look_wait_iff.mpr ?_
    by_contra hverdict
    have hqlen := PacketCodec.length_of_inspectFrame hverdict
    exact hne (hq.eq_of_length_le (by omega))

/-- Every event counts, as a packet or as a failure. -/
theorem length_packetsOf_add_count (events : List FrameEvent) :
    (packetsOf events).length + events.count .failure = events.length := by
  induction events with
  | nil => rfl
  | cons event events ih =>
    cases event with
    | packet packet =>
      have hcount : (FrameEvent.packet packet :: events).count .failure = events.count .failure :=
        List.count_cons_of_ne (by simp)
      rw [hcount, List.length_cons, ← ih]
      show (packetsOf events).length + 1 + _ = _
      omega
    | failure =>
      rw [List.count_cons_self, List.length_cons, ← ih]
      rfl

/-- The two counters together count the events. -/
theorem counters_record (channel : QtPacketChannel) (events : List FrameEvent) :
    (channel.record events).decodedPackets + (channel.record events).decodeFailures =
      channel.decodedPackets + channel.decodeFailures + events.length := by
  have h := length_packetsOf_add_count events
  simp only [record]
  omega

/-- **The cuts matter exactly when something follows the first refused header.**  In any case what
the uncut stream makes of the channel comes first in every run over its pieces. -/
theorem onBytesAll_chunks (channel : QtPacketChannel) (stream : ByteBuffer)
    (hinbound : channel.inbound = []) :
    ((∀ chunks chunks' : List ByteBuffer, chunks.flatten = stream → chunks'.flatten = stream →
        onBytesAll channel chunks = onBytesAll channel chunks') ↔
      ∀ refused, refusedFrom channel.codec stream = some refused → refused.length = 100) ∧
    ∀ chunks : List ByteBuffer, chunks.flatten = stream → ∃ later inbound,
      onBytesAll channel chunks =
        { (onBytes channel stream).record later with inbound := inbound } := by
  refine ⟨⟨fun hsame refused hrefused => ?_, fun hall chunks chunks' hchunks hchunks' => ?_⟩,
    fun chunks hchunks => ?_⟩
  · obtain ⟨front, -, ⟨e, he⟩, -⟩ := Framer.exists_front_of_some stream hrefused
    rw [← prompt_iff_length he]
    by_contra hprompt
    obtain ⟨chunks, hchunks, extra, hevents, hlate⟩ :=
      Framer.exists_late_chunks stream hrefused hprompt
    have heq := hsame chunks [stream] hchunks (by simp)
    rw [onBytesAll_singleton, onBytes_eq, onBytesAll_eq, hinbound, hevents, List.nil_append,
      Framer.walk_snd_of_some stream hrefused] at heq
    -- the buffer ends empty both times, so the extra events show in the counters
    have hextra : extra ≠ [] := by
      refine hlate.resolve_right fun hne => hne ?_
      exact congrArg QtPacketChannel.inbound heq
    have hcounters := congrArg (fun c => c.decodedPackets + c.decodeFailures) heq
    have hcut := counters_record channel (((frames channel.codec).walk stream).1 ++ extra)
    have huncut := counters_record channel ((frames channel.codec).walk stream).1
    have hpos := List.length_pos_iff.mpr hextra
    rw [List.length_append] at hcut
    simp only at hcounters
    omega
  · have hrun : ∀ cs : List ByteBuffer, cs.flatten = stream →
        (frames channel.codec).receiveAll ([], []) cs = (frames channel.codec).walk stream := by
      intro cs hcs
      rcases hrej : (frames channel.codec).rejection stream with _ | refused
      · have hnone := Framer.receiveAll_of_none [] [] cs (frames channel.codec).look_nil
          (by rw [List.nil_append, hcs]; exact hrej)
        rw [List.nil_append, List.nil_append, hcs] at hnone
        exact hnone
      · obtain ⟨front, -, ⟨e, he⟩, -⟩ := Framer.exists_front_of_some stream hrej
        have hsome := Framer.receiveAll_of_prompt [] [] cs (frames channel.codec).look_nil
          (by rw [List.nil_append, hcs]; exact hrej)
          ((prompt_iff_length he).mpr (hall refused hrej))
        rw [List.nil_append, List.nil_append, hcs] at hsome
        exact hsome
    rw [onBytesAll_eq, onBytesAll_eq, hinbound, hrun chunks hchunks, hrun chunks' hchunks']
  · obtain ⟨later, hlater⟩ := Framer.walk_prefix_receiveAll [] [] chunks
      (frames channel.codec).look_nil
    rw [List.nil_append, List.nil_append, hchunks] at hlater
    refine ⟨later, ((frames channel.codec).receiveAll ([], []) chunks).2, ?_⟩
    rw [onBytesAll_eq, hinbound, ← hlater, ← record_record, onBytes_eq, hinbound, List.nil_append]
    rfl

theorem onBytesAll_chunks_two_bytes :
    ((∀ chunks chunks' : List ByteBuffer, chunks.flatten = [0x46, 0x44] →
        chunks'.flatten = [0x46, 0x44] → onBytesAll {} chunks = onBytesAll {} chunks') ↔
      ∀ refused, refusedFrom {} [0x46, 0x44] = some refused → refused.length = 100) ∧
    ∀ chunks : List ByteBuffer, chunks.flatten = [0x46, 0x44] → ∃ later inbound,
      onBytesAll {} chunks =
        { (onBytes {} [0x46, 0x44]).record later with inbound := inbound } :=
  onBytesAll_chunks {} [0x46, 0x44] rfl

/-- A hundred bytes of garbage in front of a packet: uncut, both are thrown away, and cut between
them the packet comes through. -/
theorem onBytesAll_garbage :
    [List.replicate 100 0 ++ PacketCodec.encode {} { sessionId := 7, channelId := 1 }].flatten =
      [List.replicate 100 0, PacketCodec.encode {} { sessionId := 7, channelId := 1 }].flatten ∧
    (onBytesAll { ingressRouter := some [] } [List.replicate 100 0 ++
      PacketCodec.encode {} { sessionId := 7, channelId := 1 }]).ingressRouter = some [] ∧
    (onBytesAll { ingressRouter := some [] } [List.replicate 100 0,
      PacketCodec.encode {} { sessionId := 7, channelId := 1 }]).ingressRouter =
        some [{ sessionId := 7, channelId := 1 }] := by
  decide +kernel

end Streams

end QtPacketChannel
end Qt
end FusionDesk
