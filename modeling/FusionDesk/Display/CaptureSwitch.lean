import FusionDesk.Display.Agent
import FusionDesk.Display.FrameCodec
import FusionDesk.Display.RenderOrder
import FusionDesk.General.Runs

/-!
# A capture is replaced

An agent and a client with a channel between them that loses nothing and keeps the order.
`DisplayRuntimeService` sends frame after frame (`sendDeltaFrame`), opens the capture again when it
fails (`reopenCapture`), or makes a capture of another backend and hands it over
(`replaceCapture(created.capture, true)`); a run has these calls in any order.

The ids of the frames are those of the capture.  The client measures them against the last id it
has rendered, which may come from another capture.

* `freshRendered_iff`: the key frame that `replaceCapture` has sent is rendered exactly if its id is
  above the last one rendered.
-/

namespace FusionDesk
namespace Display

open Protocol Network
open DisplayClientModule (encodedFrameOf)

/-! ## What is asked of the codec and of the renderer -/

/-- What the client gets of an encoded frame. -/
def EncodedFrame.carried (encoded : EncodedFrame) : EncodedFrame where
  frameId := encoded.frameId
  keyFrame := encoded.keyFrame
  payload := encoded.payload

/-- The decoder decodes every key frame of the encoder that is not empty. -/
def DecodesKeyFrames (E D : Type) [IVideoEncoder E] [IVideoDecoder D] : Prop :=
  ∀ (encoder : E) (captured : CapturedFrame) (decoder : D),
    let encoded := (IVideoEncoder.encode encoder captured).1
    let decoded := (IVideoDecoder.decode decoder encoded.carried).1
    encoded.keyFrame = true → hasEncodedPayload encoded = true →
      decoded.decodeStatus = .ok ∧ decoded.frameId = encoded.frameId ∧ decoded.keyFrame = true

/-- The renderer renders every frame. -/
def RendersEveryFrame (R : Type) [IDisplayRenderer R] : Prop :=
  ∀ (renderer : R) (frame : DecodedFrame), (IDisplayRenderer.render renderer frame).1 = true

/-- The raw codec is one of these. -/
theorem rawFrame_decodesKeyFrames : DecodesKeyFrames RawFrameEncoder RawFrameDecoder := by
  intro encoder captured decoder encoded decoded hkey hpayload
  have hpayload : encodeRawFramePayload captured ≠ [] := by
    rintro hempty
    rw [hasEncodedPayload, show encoded.payload = [] from hempty] at hpayload
    cases hpayload
  have hdecoded : decoded = captured.asDecoded := by
    show (if (decodeRawFramePayload (encodeRawFramePayload captured)).ok then
      (decodeRawFramePayload (encodeRawFramePayload captured)).frame else {}) = _
    rw [decode_encodeRawFrame (geometryError_of_encodeRawFramePayload hpayload)]
    rfl
  rw [hdecoded]
  exact ⟨rfl, rfl, hkey⟩

/-! ## The link -/

/-- What has been sent over the network of the runtime. -/
def DisplayRuntime.sent (runtime : DisplayRuntime) : List PacketEnvelope :=
  match runtime.network with
  | none => []
  | some wire => wire.sent

/-- The runtime when what has been sent is on its way. -/
def DisplayRuntime.handedOver (runtime : DisplayRuntime) : DisplayRuntime :=
  { runtime with network := runtime.network.map fun wire => { wire with sent := [] } }

@[simp] theorem DisplayRuntime.sent_handedOver (runtime : DisplayRuntime) :
    runtime.handedOver.sent = [] := by
  rcases runtime with ⟨_, _, _ | wire⟩
  · rfl
  · rfl

def isKeyFrame (packet : PacketEnvelope) : Bool := packet.flags &&& packetFlagKeyFrame != 0

/-- A switch of the capture with a fresh key frame. -/
def AgentOp.switchesCapture {K : Type} : AgentOp K → Bool
  | .replaceCapture _ sendFreshKeyFrame => sendFreshKeyFrame
  | _ => false

/-- The two modules, and what is on its way between them.  `video` says of a packet whether it is
the fresh key frame of a switch that has returned `true`. -/
structure DisplayLink (K E D R : Type) where
  agent : DisplayAgentModule K E
  client : RecordedClient D R
  video : List (PacketEnvelope × Bool) := []
  responses : List PacketEnvelope := []
  requests : List PacketEnvelope := []

/-- What happens on a link.  Packets come to a module over the link only. -/
inductive LinkOp (K : Type)
  | agent (op : AgentOp K) (pressure : Option PressureLevel)
  | client (op : ClientOp) (nowUsec : UInt64)
  | deliverVideo (nowUsec : UInt64)
  | deliverResponse (nowUsec : UInt64)
  | deliverRequest (pressure : Option PressureLevel)

def ClientOp.isPacket : ClientOp → Bool
  | .handlePacket _ => true
  | _ => false

namespace DisplayLink

variable {K E D R : Type}

def start (capture : K) (encoder : E) (decoder : D) (renderer : R) : DisplayLink K E D R where
  agent := { capture := capture, encoder := encoder }
  client := RecordedClient.start decoder renderer

/-- The agent has been called; what it has sent is on its way. -/
def agentCalled (link : DisplayLink K E D R) (agent : DisplayAgentModule K E) (fresh : Bool) :
    DisplayLink K E D R :=
  let sent := agent.runtime.sent.partition fun packet => packet.packetType == .video
  { link with
    agent := { agent with runtime := agent.runtime.handedOver }
    video := link.video ++ sent.1.map fun packet => (packet, fresh && isKeyFrame packet)
    responses := link.responses ++ sent.2 }

/-- The client has been called. -/
def clientCalled (link : DisplayLink K E D R) (client : RecordedClient D R) :
    DisplayLink K E D R :=
  { link with
    client := { client with runtime := client.runtime.handedOver }
    requests := link.requests ++ client.runtime.sent }

def step [IDisplayCapture K] [IVideoEncoder E] [IVideoDecoder D] [IDisplayRenderer R]
    (link : DisplayLink K E D R) : LinkOp K → DisplayLink K E D R
  | .agent op pressure =>
    let called := link.agent.perform pressure op
    link.agentCalled called.2 (called.1 && op.switchesCapture)
  | .client op nowUsec =>
    if op.isPacket then link else link.clientCalled (link.client.step (op, nowUsec))
  | .deliverVideo nowUsec =>
    match link.video with
    | [] => link
    | item :: video =>
      { link with video := video }.clientCalled (link.client.handlePacket nowUsec item.1)
  | .deliverResponse nowUsec =>
    match link.responses with
    | [] => link
    | packet :: responses =>
      { link with responses := responses }.clientCalled (link.client.handlePacket nowUsec packet)
  | .deliverRequest pressure =>
    match link.requests with
    | [] => link
    | packet :: requests =>
      { link with requests := requests }.agentCalled (link.agent.handlePacket pressure packet) false

/-- The fresh key frame of a switch that arrives in the step. -/
def freshArriving (link : DisplayLink K E D R) : LinkOp K → Option PacketEnvelope
  | .deliverVideo _ => link.video.head?.bind fun item => if item.2 then some item.1 else none
  | _ => none

/-- The ids of the frames that the client has rendered. -/
def renderedIds (link : DisplayLink K E D R) : List UInt64 :=
  link.client.renderer.rendered.map DecodedFrame.frameId

/-- A fresh key frame that arrives is rendered. -/
def FreshRendered [IDisplayCapture K] [IVideoEncoder E] [IVideoDecoder D] [IDisplayRenderer R]
    (link : DisplayLink K E D R) (op : LinkOp K) : Prop :=
  ∀ packet ∈ link.freshArriving op, (link.step op).renderedIds = link.renderedIds ++ [packet.sequence]

instance [IDisplayCapture K] [IVideoEncoder E] [IVideoDecoder D] [IDisplayRenderer R]
    (link : DisplayLink K E D R) (op : LinkOp K) : Decidable (FreshRendered link op) :=
  inferInstanceAs (Decidable (∀ packet ∈ link.freshArriving op, _))

/-- A fresh key frame that arrives has an id above the last one rendered. -/
def FreshNewer (link : DisplayLink K E D R) (op : LinkOp K) : Prop :=
  ∀ packet ∈ link.freshArriving op, link.client.lastRenderedFrameId < packet.sequence

instance (link : DisplayLink K E D R) (op : LinkOp K) : Decidable (FreshNewer link op) :=
  inferInstanceAs (Decidable (∀ packet ∈ link.freshArriving op, _))

end DisplayLink

/-! ## What the agent sends -/

/-- A packet of a frame that the encoder has given. -/
def FromEncoder (E : Type) [IVideoEncoder E] (packet : PacketEnvelope) : Prop :=
  ∃ (runtime : DisplayRuntime) (encoder : E) (captured : CapturedFrame),
    packet = videoPacket runtime (IVideoEncoder.encode encoder captured).1 ∧
      hasEncodedPayload (IVideoEncoder.encode encoder captured).1 = true

theorem encodedFrameOf_videoPacket (runtime : DisplayRuntime) (encoded : EncodedFrame) :
    encodedFrameOf (videoPacket runtime encoded) = encoded.carried := by
  have hkey : ((if encoded.keyFrame then packetFlagNoResponseRequired ||| packetFlagKeyFrame
      else packetFlagNoResponseRequired) &&& packetFlagKeyFrame != 0) = encoded.keyFrame := by
    cases encoded.keyFrame <;> rfl
  show (⟨_, _, _, _, _, _, _, _⟩ : EncodedFrame) = _
  rw [EncodedFrame.carried]
  congr 1

/-- What has been sent behind a send: what was before, and perhaps the packet. -/
theorem DisplayRuntime.mem_sent_sendPacket {runtime : DisplayRuntime} {packet other : PacketEnvelope}
    (h : other ∈ (runtime.sendPacket packet).2.sent) : other ∈ runtime.sent ∨ other = packet := by
  rcases runtime with ⟨_, _, _ | wire⟩
  · exact Or.inl h
  · change other ∈ (if wire.returns 0 = .sent then wire.sent ++ [packet] else wire.sent) at h
    split at h
    · rcases List.mem_append.mp h with h | h
      · exact Or.inl h
      · exact Or.inr (List.mem_singleton.mp h)
    · exact Or.inl h

namespace DisplayAgentModule

variable {K E : Type}

theorem runtime_recordSentFrameShape (m : DisplayAgentModule K E) (frame : EncodedFrame)
    (sourceId : UInt32) : (m.recordSentFrameShape frame sourceId).runtime = m.runtime := by
  unfold recordSentFrameShape
  split
  · rfl
  · rfl

theorem mem_sent_sendEncoded {m : DisplayAgentModule K E} {encoded : EncodedFrame}
    {sourceId : UInt32} {packet : PacketEnvelope}
    (h : packet ∈ (m.sendEncoded encoded sourceId).2.runtime.sent) :
    packet ∈ m.runtime.sent ∨
      packet = videoPacket m.runtime encoded ∧ hasEncodedPayload encoded = true := by
  unfold sendEncoded at h
  dsimp only at h
  split at h
  next => exact Or.inl h
  next hpayload =>
    have hpayload := eq_true_of_ne_false hpayload
    have hsent : packet ∈ (m.runtime.sendPacket (videoPacket m.runtime encoded)).2.sent := by
      split at h
      · exact h
      · rwa [runtime_recordSentFrameShape] at h
    rcases DisplayRuntime.mem_sent_sendPacket hsent with hbefore | hnew
    · exact Or.inl hbefore
    · exact Or.inr ⟨hnew, hpayload⟩

variable [IDisplayCapture K]

theorem runtime_closeCapture (m : DisplayAgentModule K E) :
    m.closeCapture.runtime = m.runtime := by
  unfold closeCapture
  split
  · rfl
  · rfl

variable [IVideoEncoder E]

theorem mem_sent_sendFrame {m : DisplayAgentModule K E} {pressure : Option PressureLevel}
    {keyFrame : Bool} {packet : PacketEnvelope}
    (h : packet ∈ (m.sendFrame pressure keyFrame).2.runtime.sent) :
    packet ∈ m.runtime.sent ∨ FromEncoder E packet := by
  unfold sendFrame at h
  split at h
  · exact Or.inl h
  split at h
  · exact Or.inl h
  · rcases mem_sent_sendEncoded h with hbefore | ⟨hnew, hpayload⟩
    · exact Or.inl hbefore
    · exact Or.inr ⟨_, _, _, hnew, hpayload⟩

theorem mem_sent_openForFrames {m : DisplayAgentModule K E} {pressure : Option PressureLevel}
    {sendFreshKeyFrame : Bool} {packet : PacketEnvelope}
    (h : packet ∈ (m.openForFrames pressure sendFreshKeyFrame).2.runtime.sent) :
    packet ∈ m.runtime.sent ∨ FromEncoder E packet := by
  unfold openForFrames at h
  dsimp only at h
  split at h
  · exact Or.inl h
  split at h
  · exact Or.inl h
  · exact mem_sent_sendFrame (m := { m with capture := _, captureOpened := true }) h

/-- **A switch sends nothing but a frame of the encoder.** -/
theorem mem_sent_replaceCapture {m : DisplayAgentModule K E} {pressure : Option PressureLevel}
    {capture : Option K} {sendFreshKeyFrame : Bool} {packet : PacketEnvelope}
    (h : packet ∈ (m.replaceCapture pressure capture sendFreshKeyFrame).2.runtime.sent) :
    packet ∈ m.runtime.sent ∨ FromEncoder E packet := by
  cases capture with
  | none => exact Or.inl h
  | some capture =>
    unfold replaceCapture at h
    dsimp only at h
    split at h
    · exact Or.inl h
    · rcases mem_sent_openForFrames h with hbefore | hnew
      · left
        rwa [← m.runtime_closeCapture]
      · exact Or.inr hnew

end DisplayAgentModule

/-! ## What the client does with a fresh key frame -/

/-- A frame changes what has been rendered by itself, if it does. -/
theorem VideoMove.rendered_cases {encoded : EncodedFrame} {s t : VideoPart}
    (h : VideoMove encoded s t) : t.rendered = s.rendered ∨
      ∃ decoded, Follows s decoded ∧ t.rendered = s.rendered ++ [decoded] := by
  cases h with
  | rendered admits good follows => exact Or.inr ⟨_, follows, rfl⟩
  | _ => exact Or.inl rfl

namespace DisplayClientModule

variable {D R : Type} [IVideoDecoder D] [IDisplayRenderer R]

/-- **A key frame above the last one rendered is rendered**, if it is decoded and the renderer
succeeds. -/
theorem rendered_of_newer {m : RecordedClient D R} {nowUsec : UInt64} {packet : PacketEnvelope}
    (hframe : isFrame packet = true) (hkey : (encodedFrameOf packet).keyFrame = true)
    (hnewer : m.lastRenderedFrameId < packet.sequence)
    {decoded : DecodedFrame}
    (hdecoded : (IVideoDecoder.decode m.decoder.decoder (encodedFrameOf packet)).1 = decoded)
    (hstatus : decoded.decodeStatus = .ok) (hid : decoded.frameId = packet.sequence)
    (hdecodedKey : decoded.keyFrame = true) (hrenders : RendersEveryFrame R) :
    (m.handlePacket nowUsec packet).renderer.rendered = m.renderer.rendered ++ [decoded] := by
  rw [isFrame, Bool.and_eq_true, beq_iff_eq, beq_iff_eq] at hframe
  have hencoded : (encodedFrameOf packet).frameId = packet.sequence := rfl
  have hgiven : (IVideoDecoder.decode m.decoder (encodedFrameOf packet)).1 = decoded := hdecoded
  have hnotStale : ¬packet.sequence ≤ m.lastRenderedFrameId := UInt64.not_le.mpr hnewer
  have hnonzero : packet.sequence ≠ 0 := by
    rintro hzero
    rw [hzero, UInt64.lt_iff_toNat_lt] at hnewer
    exact Nat.not_lt_zero _ hnewer
  rw [handlePacket, if_pos hframe.1, renderVideo, if_neg (not_not.mpr hframe.2)]
  dsimp only [countReceived]
  rw [if_neg (by rw [hkey]; simp), if_neg (by rw [hencoded]; exact fun h => hnotStale h.2), hgiven,
    handleDecoded, hstatus, if_neg (by simp), if_neg (by simp [hid, hencoded, hnonzero]),
    if_neg (by rw [hid]; exact hnotStale), if_neg (by rw [hdecodedKey]; simp), renderDecoded]
  dsimp only
  have hrendered : (IDisplayRenderer.render m.renderer decoded).1 = true :=
    hrenders m.renderer.renderer decoded
  rw [if_neg (by rw [hrendered]; simp)]
  exact if_pos (hrenders m.renderer.renderer decoded)

/-- A frame that is rendered is above the last one. -/
theorem newer_of_rendered {m : RecordedClient D R} {nowUsec : UInt64} {packet : PacketEnvelope}
    (h : (m.handlePacket nowUsec packet).renderer.rendered.map DecodedFrame.frameId =
      m.renderer.rendered.map DecodedFrame.frameId ++ [packet.sequence]) :
    m.lastRenderedFrameId < packet.sequence := by
  have hchanged : (m.handlePacket nowUsec packet).renderer.rendered ≠ m.renderer.rendered := by
    rintro hsame
    rw [hsame] at h
    exact ne_append_singleton _ _ h
  cases hframe : isFrame packet with
  | false =>
    have hsame := m.videoPart_handlePacket nowUsec hframe
    exact absurd (congrArg VideoPart.rendered hsame) hchanged
  | true =>
    rcases (m.videoMove_handlePacket nowUsec hframe).rendered_cases with hsame | hrendered
    · exact absurd hsame hchanged
    · obtain ⟨decoded, hfollows, hrendered⟩ := hrendered
      have hrendered : (m.handlePacket nowUsec packet).renderer.rendered =
          m.renderer.rendered ++ [decoded] := hrendered
      rw [hrendered, List.map_append, List.append_cancel_left_eq] at h
      have hid : decoded.frameId = packet.sequence := List.singleton_inj.mp h
      rw [← hid]
      exact hfollows.newer

end DisplayClientModule

/-! ## Runs -/

namespace DisplayLink

variable {K E D R : Type}

/-- What is on its way as a fresh key frame is one of the encoder. -/
structure FreshFrames [IVideoEncoder E] (link : DisplayLink K E D R) : Prop where
  handedOver : link.agent.runtime.sent = []
  fresh : ∀ item ∈ link.video, item.2 = true → FromEncoder E item.1 ∧ isKeyFrame item.1 = true

section Steps

variable [IVideoEncoder E] {link : DisplayLink K E D R}

theorem FreshFrames.clientCalled (h : link.FreshFrames) (client : RecordedClient D R) :
    (link.clientCalled client).FreshFrames :=
  ⟨h.handedOver, h.fresh⟩

/-- After a call of the agent, if what is new and marked comes from the encoder. -/
theorem FreshFrames.agentCalled (h : link.FreshFrames) {agent : DisplayAgentModule K E} {fresh : Bool}
    (hnew : fresh = true → ∀ packet ∈ agent.runtime.sent, FromEncoder E packet) :
    (link.agentCalled agent fresh).FreshFrames := by
  refine ⟨agent.runtime.sent_handedOver, fun item hitem hmarked => ?_⟩
  rcases List.mem_append.mp hitem with hitem | hitem
  · exact h.fresh item hitem hmarked
  · obtain ⟨packet, hpacket, rfl⟩ := List.mem_map.mp hitem
    rw [List.partition_eq_filter_filter] at hpacket
    have hboth := Bool.and_eq_true_iff.mp hmarked
    exact ⟨hnew hboth.1 packet (List.mem_of_mem_filter hpacket), hboth.2⟩

/-- A packet has been taken off the video channel. -/
theorem FreshFrames.taken (h : link.FreshFrames) {item : PacketEnvelope × Bool}
    {video : List (PacketEnvelope × Bool)} (hvideo : link.video = item :: video) :
    ({ link with video := video } : DisplayLink K E D R).FreshFrames := by
  refine ⟨h.handedOver, fun other hother hmarked => h.fresh other ?_ hmarked⟩
  rw [hvideo]
  exact List.mem_cons_of_mem _ hother

variable [IDisplayCapture K] [IVideoDecoder D] [IDisplayRenderer R]

theorem FreshFrames.step (h : link.FreshFrames) (op : LinkOp K) : (link.step op).FreshFrames := by
  cases op with
  | agent op pressure =>
    refine h.agentCalled fun hfresh packet hpacket => ?_
    have hswitch := (Bool.and_eq_true_iff.mp hfresh).2
    cases op with
    | replaceCapture capture sendFreshKeyFrame =>
      rcases DisplayAgentModule.mem_sent_replaceCapture hpacket with hbefore | hnew
      · rw [h.handedOver] at hbefore
        cases hbefore
      · exact hnew
    | _ => cases hswitch
  | client op nowUsec =>
    simp only [DisplayLink.step]
    split
    · exact h
    · exact h.clientCalled _
  | deliverVideo nowUsec =>
    simp only [DisplayLink.step]
    split
    · exact h
    next item video hvideo => exact (h.taken hvideo).clientCalled _
  | deliverResponse nowUsec =>
    simp only [DisplayLink.step]
    split
    · exact h
    next packet responses hresponses =>
      have hrest : ({ link with responses := responses } : DisplayLink K E D R).FreshFrames :=
        ⟨h.handedOver, h.fresh⟩
      exact hrest.clientCalled _
  | deliverRequest pressure =>
    simp only [DisplayLink.step]
    split
    · exact h
    next packet requests hrequests =>
      have hrest : ({ link with requests := requests } : DisplayLink K E D R).FreshFrames :=
        ⟨h.handedOver, h.fresh⟩
      exact hrest.agentCalled fun hfresh => absurd hfresh Bool.false_ne_true

/-- **A fresh key frame is rendered exactly if it is newer.** -/
theorem freshRendered_iff_freshNewer (h : link.FreshFrames) (hdecodes : DecodesKeyFrames E D)
    (hrenders : RendersEveryFrame R) (op : LinkOp K) :
    link.FreshRendered op ↔ link.FreshNewer op := by
  refine forall₂_congr fun packet harriving => ?_
  cases op with
  | deliverVideo nowUsec =>
    obtain ⟨item, hhead, hitem⟩ := Option.bind_eq_some_iff.mp harriving
    obtain ⟨video, hvideo⟩ := List.head?_eq_some_iff.mp hhead
    obtain ⟨hmarked, rfl⟩ : item.2 = true ∧ item.1 = packet := by
      by_cases hmarked : item.2 = true
      · rw [if_pos hmarked] at hitem
        exact ⟨hmarked, Option.some.inj hitem⟩
      · rw [if_neg hmarked] at hitem
        cases hitem
    have hstep : (link.step (.deliverVideo nowUsec)).renderedIds =
        (link.client.handlePacket nowUsec item.1).renderer.rendered.map DecodedFrame.frameId := by
      simp only [DisplayLink.step, hvideo]
      rfl
    rw [hstep]
    constructor
    · exact DisplayClientModule.newer_of_rendered
    · intro hnewer
      obtain ⟨⟨runtime, encoder, captured, hpacket, hpayload⟩, hkey⟩ :=
        h.fresh item (by rw [hvideo]; exact List.mem_cons_self) hmarked
      have hcarried := encodedFrameOf_videoPacket runtime (IVideoEncoder.encode encoder captured).1
      rw [← hpacket] at hcarried
      have hframe : isFrame item.1 = true := by
        rw [hpacket]
        rfl
      have hencodedKey : (IVideoEncoder.encode encoder captured).1.keyFrame = true := by
        rw [← hkey]
        exact (congrArg EncodedFrame.keyFrame hcarried).symm
      obtain ⟨hstatus, hid, hdecodedKey⟩ :=
        hdecodes encoder captured link.client.decoder.decoder hencodedKey hpayload
      rw [← hcarried] at hstatus hid hdecodedKey
      have hsequence : item.1.sequence = (IVideoEncoder.encode encoder captured).1.frameId :=
        congrArg EncodedFrame.frameId hcarried
      rw [DisplayClientModule.rendered_of_newer hframe hkey hnewer rfl hstatus
        (hid.trans hsequence.symm) hdecodedKey hrenders, List.map_append, List.map_singleton, hid,
        ← hsequence]
      rfl
  | _ => cases harriving

end Steps

/-- **In every run, the fresh key frame of every switch is rendered exactly if its id is above the
last one rendered when it arrives**, whatever the captures, the encoder, the decoder and the renderer
are, if only the key frames are decoded and the renderer succeeds. -/
theorem freshRendered_iff [IDisplayCapture K] [IVideoEncoder E] [IVideoDecoder D]
    [IDisplayRenderer R] (hdecodes : DecodesKeyFrames E D) (hrenders : RendersEveryFrame R)
    (capture : K) (encoder : E) (decoder : D) (renderer : R) (ops : List (LinkOp K)) :
    Runs.EveryStep DisplayLink.step FreshRendered
        (DisplayLink.start capture encoder decoder renderer) ops ↔
      Runs.EveryStep DisplayLink.step FreshNewer
        (DisplayLink.start capture encoder decoder renderer) ops := by
  have hstart : (DisplayLink.start capture encoder decoder renderer).FreshFrames := ⟨rfl, nofun⟩
  exact Runs.everyStep_iff_of_invariant hstart (fun _ op h _ => h.step op)
    fun _ op h => freshRendered_iff_freshNewer h hdecodes hrenders op

/-- A capture that gives frames of one pixel, numbered from 1 on, until it fails. -/
structure CountingCapture where
  nextFrameId : UInt64 := 1
  framesLeft : ℕ

instance : IDisplayCapture CountingCapture where
  openCapture capture := (true, capture)
  close capture := capture
  captureNextFrame capture keyFrame :=
    let frame : CapturedFrame := {
      frameId := capture.nextFrameId, keyFrame := keyFrame, pixelFormat := .gray8 }
    (if capture.framesLeft = 0 then frame
      else { frame with width := 1, height := 1, strideBytes := 1, pixels := [0] },
      { nextFrameId := capture.nextFrameId + 1, framesLeft := capture.framesLeft - 1 })

/-- A renderer that has nothing to fail. -/
structure BlankRenderer where

instance : IDisplayRenderer BlankRenderer where
  render renderer _ := (true, renderer)

/-- Two frames are rendered, the capture fails, and another one takes its place. -/
def switchRun (replacement : CountingCapture) : List (LinkOp CountingCapture) :=
  [.agent (.attach { network := some {} }) none, .client (.attach { network := some {} }) 0,
    .agent .start none, .deliverVideo 1, .agent .sendDeltaFrame none, .deliverVideo 2,
    .agent .sendDeltaFrame none, .agent (.replaceCapture (some replacement) true) none,
    .deliverVideo 3]

/-- A replacement that goes on with the numbers is seen. -/
theorem freshRendered_iff_switchRun :
    Runs.EveryStep DisplayLink.step FreshRendered
      (DisplayLink.start (CountingCapture.mk 1 2) RawFrameEncoder.mk RawFrameDecoder.mk
        BlankRenderer.mk) (switchRun ⟨3, 1⟩) :=
  (freshRendered_iff rawFrame_decodesKeyFrames (fun _ _ => rfl) _ _ _ _ _).mpr
    (by decide +kernel)

/-- **A replacement that numbers its frames from 1 is not seen**: the switch has returned `true`, and
its key frame is dropped. -/
theorem fresh_frame_dropped :
    DecodesKeyFrames RawFrameEncoder RawFrameDecoder ∧ RendersEveryFrame BlankRenderer ∧
      ¬Runs.EveryStep DisplayLink.step FreshRendered
        (DisplayLink.start (CountingCapture.mk 1 2) RawFrameEncoder.mk RawFrameDecoder.mk
          BlankRenderer.mk) (switchRun ⟨1, 1⟩) :=
  ⟨rawFrame_decodesKeyFrames, fun _ _ => rfl, by decide +kernel⟩

end DisplayLink

end Display
end FusionDesk
