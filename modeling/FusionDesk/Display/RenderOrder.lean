import FusionDesk.Display.Client
import FusionDesk.General.Runs

/-!
# The order of rendering

What the client does with the frames it gets, whatever the decoder and the renderer answer.  Both are
recorded: the decoder with what it was given and what it gave back, the renderer with what it has
rendered.

* `VideoMove`: the eight ways in which a frame can end, each with all that it does to the state that
  they hang on (`VideoPart`); `videoMove_renderVideo` says that there is no ninth.
* `InOrder`: the frames that are rendered, and the counters.
* `render_order`: every run.
-/

namespace FusionDesk
namespace Display

open Protocol Network
open FusionDesk.Module (ModuleReconnectOptions)

/-! ## Records -/

/-- A decoder with what it was given and what it gave back. -/
structure RecordedDecoder (D : Type) where
  decoder : D
  given : List (EncodedFrame × DecodedFrame) := []

instance {D : Type} [IVideoDecoder D] : IVideoDecoder (RecordedDecoder D) where
  decode recorded frame :=
    let decoded := IVideoDecoder.decode recorded.decoder frame
    (decoded.1, { decoder := decoded.2, given := recorded.given ++ [(frame, decoded.1)] })

/-- A renderer with what it has rendered. -/
structure RecordedRenderer (R : Type) where
  renderer : R
  rendered : List DecodedFrame := []

instance {R : Type} [IDisplayRenderer R] : IDisplayRenderer (RecordedRenderer R) where
  render recorded frame :=
    let rendered := IDisplayRenderer.render recorded.renderer frame
    (rendered.1, {
      renderer := rendered.2
      rendered := if rendered.1 then recorded.rendered ++ [frame] else recorded.rendered })

/-- A client whose decoder and renderer are recorded. -/
abbrev RecordedClient (D R : Type) := DisplayClientModule (RecordedDecoder D) (RecordedRenderer R)

/-! ## What a frame does -/

/-- What the end of a frame hangs on, and what it changes of it. -/
structure VideoPart where
  receivedFrames : ℕ
  renderedFrames : ℕ
  droppedFrames : ℕ
  decoderPendingFrames : ℕ
  renderErrors : ℕ
  lastRenderedFrameId : UInt64
  decoderHasPendingInput : Bool
  given : List (EncodedFrame × DecodedFrame)
  rendered : List DecodedFrame
  requested : List DisplayKeyframeReason

namespace VideoPart

/-- A frame that is received. -/
def receive (s : VideoPart) : VideoPart := { s with receivedFrames := s.receivedFrames + 1 }

/-- A frame that the decoder is given. -/
def give (s : VideoPart) (encoded : EncodedFrame) (decoded : DecodedFrame) : VideoPart :=
  { s with given := s.given ++ [(encoded, decoded)] }

/-- A frame that is dropped. -/
def drop (s : VideoPart) : VideoPart := { s with droppedFrames := s.droppedFrames + 1 }

/-- A call of `requestKeyFrame`. -/
def request (s : VideoPart) (reason : DisplayKeyframeReason) : VideoPart :=
  { s with requested := s.requested ++ [reason] }

/-- A frame that goes to the decoder. -/
structure Admits (s : VideoPart) (encoded : EncodedFrame) : Prop where
  first : s.renderedFrames = 0 → encoded.keyFrame = true ∨ s.decoderHasPendingInput = true
  fresh : 0 < s.renderedFrames → s.lastRenderedFrameId < encoded.frameId

end VideoPart

/-- A frame that the decoder may give back for another: not a later one. -/
structure Acceptable (encoded : EncodedFrame) (decoded : DecodedFrame) : Prop where
  status : decoded.decodeStatus = .ok
  frameId : decoded.frameId ≠ 0
  notLater : decoded.frameId ≤ encoded.frameId

/-- A frame that may be rendered: newer than the last one, and the next one or a key frame. -/
structure Follows (s : VideoPart) (decoded : DecodedFrame) : Prop where
  newer : s.lastRenderedFrameId < decoded.frameId
  next : 0 < s.renderedFrames →
    decoded.frameId = s.lastRenderedFrameId + 1 ∨ decoded.keyFrame = true

/-- **How a frame can end.** -/
inductive VideoMove (encoded : EncodedFrame) (s : VideoPart) : VideoPart → Prop
  | firstFrameMissing (unrendered : s.renderedFrames = 0) (idle : s.decoderHasPendingInput = false)
      (delta : encoded.keyFrame = false) :
      VideoMove encoded s (s.receive.drop.request .firstFrameTimeout)
  | stale (rendered : 0 < s.renderedFrames) (old : encoded.frameId ≤ s.lastRenderedFrameId) :
      VideoMove encoded s s.receive.drop
  | pending {decoded : DecodedFrame} (admits : s.Admits encoded)
      (status : decoded.decodeStatus = .needsMoreInput) :
      VideoMove encoded s { s.receive.give encoded decoded with
        decoderPendingFrames := s.decoderPendingFrames + 1
        decoderHasPendingInput := true }
  | decodeFailed {decoded : DecodedFrame} (admits : s.Admits encoded)
      (status : decoded.decodeStatus ≠ .needsMoreInput) (bad : ¬Acceptable encoded decoded) :
      VideoMove encoded s { (s.receive.give encoded decoded).drop.request .decoderReset with
        decoderHasPendingInput := false }
  | staleDecoded {decoded : DecodedFrame} (admits : s.Admits encoded)
      (good : Acceptable encoded decoded) (old : decoded.frameId ≤ s.lastRenderedFrameId) :
      VideoMove encoded s (s.receive.give encoded decoded).drop
  | gap {decoded : DecodedFrame} (admits : s.Admits encoded) (good : Acceptable encoded decoded)
      (newer : s.lastRenderedFrameId < decoded.frameId) (rendered : 0 < s.renderedFrames)
      (delta : decoded.keyFrame = false) :
      VideoMove encoded s ((s.receive.give encoded decoded).drop.request .frameGap)
  | renderError {decoded : DecodedFrame} (admits : s.Admits encoded)
      (good : Acceptable encoded decoded) (follows : Follows s decoded) :
      VideoMove encoded s { (s.receive.give encoded decoded).request .decoderReset with
        decoderHasPendingInput := decide (decoded.frameId < encoded.frameId)
        renderErrors := s.renderErrors + 1 }
  | rendered {decoded : DecodedFrame} (admits : s.Admits encoded)
      (good : Acceptable encoded decoded) (follows : Follows s decoded) :
      VideoMove encoded s { s.receive.give encoded decoded with
        decoderHasPendingInput := decide (decoded.frameId < encoded.frameId)
        renderedFrames := s.renderedFrames + 1
        lastRenderedFrameId := decoded.frameId
        rendered := s.rendered ++ [decoded] }

theorem VideoMove.of_eq {encoded : EncodedFrame} {s t t' : VideoPart} (h : t = t')
    (hmove : VideoMove encoded s t') : VideoMove encoded s t :=
  h ▸ hmove

namespace DisplayClientModule

variable {D R : Type}

def videoPart (m : RecordedClient D R) : VideoPart where
  receivedFrames := m.receivedFrames
  renderedFrames := m.renderedFrames
  droppedFrames := m.droppedFrames
  decoderPendingFrames := m.decoderPendingFrames
  renderErrors := m.renderErrors
  lastRenderedFrameId := m.lastRenderedFrameId
  decoderHasPendingInput := m.decoderHasPendingInput
  given := m.decoder.given
  rendered := m.renderer.rendered
  requested := m.requested

/-! ### Requests for a key frame -/

@[simp] theorem videoPart_handleKeyframeResponse (m : RecordedClient D R)
    (packet : PacketEnvelope) : (m.handleKeyframeResponse packet).videoPart = m.videoPart := by
  unfold handleKeyframeResponse
  dsimp only
  split
  · rfl
  split
  · rfl
  · rfl

theorem videoPart_foldl (calls : List (HandlerCall Unit)) (m : RecordedClient D R) :
    (calls.foldl (fun m call => m.handleKeyframeResponse call.response) m).videoPart =
      m.videoPart := by
  induction calls generalizing m with
  | nil => rfl
  | cons call calls ih => rw [List.foldl_cons, ih, videoPart_handleKeyframeResponse]

@[simp] theorem videoPart_completeKeyframeRequest (m : RecordedClient D R)
    (packet : PacketEnvelope) : (m.completeKeyframeRequest packet).videoPart = m.videoPart :=
  videoPart_foldl (m.keyframeRequestsTracker.complete packet).2.1 m

@[simp] theorem videoPart_sendKeyframeRequest (m : RecordedClient D R) (nowUsec : UInt64)
    (reason : DisplayKeyframeReason) :
    (m.sendKeyframeRequest nowUsec reason).2.videoPart = m.videoPart := by
  unfold sendKeyframeRequest
  dsimp only
  split
  · rfl
  split
  · rfl
  · exact videoPart_completeKeyframeRequest _ _

/-- **A request for a key frame is one call**, and changes nothing else of the part. -/
@[simp] theorem videoPart_requestKeyFrame (m : RecordedClient D R) (nowUsec : UInt64)
    (reason : DisplayKeyframeReason) :
    (m.requestKeyFrame nowUsec reason).2.videoPart = m.videoPart.request reason := by
  unfold requestKeyFrame
  dsimp only
  split
  · rfl
  · exact videoPart_sendKeyframeRequest _ _ _

@[simp] theorem videoPart_requestRecoveryKeyFrame (m : RecordedClient D R) (nowUsec : UInt64)
    (reason : DisplayKeyframeReason) :
    (m.requestRecoveryKeyFrame nowUsec reason).2.videoPart = m.videoPart.request reason :=
  videoPart_requestKeyFrame m nowUsec reason

/-! ### The exits -/

/-- A frame id that is behind another one by no more than one is the next. -/
theorem next_of_not_gap {last id : UInt64} (hnewer : last < id) (hgap : ¬id > last + 1) :
    id = last + 1 := by
  have hnewer := UInt64.lt_iff_toNat_lt.mp hnewer
  have hgap := UInt64.le_iff_toNat_le.mp (UInt64.not_lt.mp hgap)
  have hlt := id.toNat_lt
  apply UInt64.toNat_inj.mp
  rw [UInt64.toNat_add] at hgap ⊢
  simp only [UInt64.toNat_one] at hgap ⊢
  omega

variable [IDisplayRenderer R]

/-- A frame that is rendered, or that the renderer refuses. -/
theorem videoMove_renderDecoded {m : RecordedClient D R} {s : VideoPart} {encoded : EncodedFrame}
    {decoded : DecodedFrame} (hm : m.videoPart = s.receive.give encoded decoded)
    (hadmits : s.Admits encoded) (hgood : Acceptable encoded decoded) (hfollows : Follows s decoded)
    (nowUsec : UInt64) :
    VideoMove encoded s (m.renderDecoded nowUsec encoded decoded).2.videoPart := by
  have hrecord : (IDisplayRenderer.render m.renderer decoded).2.rendered =
      if (IDisplayRenderer.render m.renderer decoded).1 then m.renderer.rendered ++ [decoded]
      else m.renderer.rendered := rfl
  have hrendered : m.renderer.rendered = s.rendered := congrArg VideoPart.rendered hm
  have herrors : m.renderErrors = s.renderErrors := congrArg VideoPart.renderErrors hm
  have hcount : m.renderedFrames = s.renderedFrames := congrArg VideoPart.renderedFrames hm
  unfold renderDecoded
  dsimp only
  split
  next hfailed =>
    rw [hfailed, if_neg Bool.false_ne_true, hrendered] at hrecord
    have hpart : ({ m.videoPart with
        decoderHasPendingInput := decide (decoded.frameId < encoded.frameId)
        renderErrors := m.renderErrors + 1
        rendered := (IDisplayRenderer.render m.renderer decoded).2.rendered } : VideoPart).request
          .decoderReset = { (s.receive.give encoded decoded).request .decoderReset with
            decoderHasPendingInput := decide (decoded.frameId < encoded.frameId)
            renderErrors := s.renderErrors + 1 } := by
      rw [hm, hrecord, herrors]
      rfl
    dsimp only
    rw [videoPart_requestRecoveryKeyFrame]
    exact .of_eq hpart (.renderError hadmits hgood hfollows)
  next hok =>
    rw [eq_true_of_ne_false hok, if_pos rfl, hrendered] at hrecord
    have hpart : ({ m.videoPart with
        decoderHasPendingInput := decide (decoded.frameId < encoded.frameId)
        renderedFrames := m.renderedFrames + 1
        lastRenderedFrameId := decoded.frameId
        rendered := (IDisplayRenderer.render m.renderer decoded).2.rendered } : VideoPart) =
          { s.receive.give encoded decoded with
            decoderHasPendingInput := decide (decoded.frameId < encoded.frameId)
            renderedFrames := s.renderedFrames + 1
            lastRenderedFrameId := decoded.frameId
            rendered := s.rendered ++ [decoded] } := by
      rw [hm, hrecord, hcount]
    exact .of_eq hpart (.rendered hadmits hgood hfollows)

/-- What the client does with the answer of the decoder. -/
theorem videoMove_handleDecoded {m : RecordedClient D R} {s : VideoPart} {encoded : EncodedFrame}
    {decoded : DecodedFrame} (hm : m.videoPart = s.receive.give encoded decoded)
    (hadmits : s.Admits encoded) (nowUsec : UInt64) :
    VideoMove encoded s (m.handleDecoded nowUsec encoded decoded).2.videoPart := by
  have hcount : m.renderedFrames = s.renderedFrames := congrArg VideoPart.renderedFrames hm
  have hlast : m.lastRenderedFrameId = s.lastRenderedFrameId :=
    congrArg VideoPart.lastRenderedFrameId hm
  have hpending : m.decoderPendingFrames = s.decoderPendingFrames :=
    congrArg VideoPart.decoderPendingFrames hm
  have hdropped : m.droppedFrames = (s.receive.give encoded decoded).droppedFrames :=
    congrArg VideoPart.droppedFrames hm
  have hdrop : ({ m.videoPart with droppedFrames := m.droppedFrames + 1 } : VideoPart) =
      (s.receive.give encoded decoded).drop := by
    rw [hm, hdropped]
    rfl
  unfold handleDecoded
  split
  next hstatus =>
    have hpart : ({ m.videoPart with
        decoderPendingFrames := m.decoderPendingFrames + 1
        decoderHasPendingInput := true } : VideoPart) =
          { s.receive.give encoded decoded with
            decoderPendingFrames := s.decoderPendingFrames + 1
            decoderHasPendingInput := true } := by
      rw [hm, hpending]
    exact .of_eq hpart (.pending hadmits hstatus)
  split
  next hstatus hbad =>
    have hpart : ({ m.videoPart with
        decoderHasPendingInput := false
        droppedFrames := m.droppedFrames + 1 } : VideoPart).request .decoderReset =
          { (s.receive.give encoded decoded).drop.request .decoderReset with
            decoderHasPendingInput := false } := by
      rw [hm, hdropped]
      rfl
    dsimp only
    rw [videoPart_requestRecoveryKeyFrame]
    refine .of_eq hpart (.decodeFailed hadmits hstatus fun hgood => ?_)
    rcases hbad with hbad | hbad | hbad
    · exact hbad hgood.status
    · exact hgood.frameId hbad
    · exact absurd hgood.notLater (UInt64.not_le.mpr hbad)
  next hstatus hgood =>
  push Not at hgood
  have hgood : Acceptable encoded decoded :=
    ⟨hgood.1, hgood.2.1, UInt64.not_lt.mp hgood.2.2⟩
  split
  next hold => exact .of_eq hdrop (.staleDecoded hadmits hgood (hlast ▸ hold))
  next hnewer =>
  rw [hlast, UInt64.not_le] at hnewer
  split
  next hgap =>
    dsimp only
    rw [videoPart_requestRecoveryKeyFrame]
    have hpart : ({ m.videoPart with droppedFrames := m.droppedFrames + 1 } : VideoPart).request
        .frameGap = (s.receive.give encoded decoded).drop.request .frameGap := by rw [hdrop]
    exact .of_eq hpart (.gap hadmits hgood hnewer (hcount ▸ hgap.1) hgap.2.2)
  next hnogap =>
  refine videoMove_renderDecoded hm hadmits hgood ⟨hnewer, fun hrendered => ?_⟩ nowUsec
  by_cases hkey : decoded.keyFrame = true
  · exact Or.inr hkey
  · refine Or.inl (next_of_not_gap hnewer fun hgap => hnogap ⟨hcount ▸ hrendered, ?_, ?_⟩)
    · rwa [hlast]
    · exact eq_false_of_ne_true hkey

variable [IVideoDecoder D]

/-- **A frame ends in one of the eight ways.** -/
theorem videoMove_renderVideo (m : RecordedClient D R) (nowUsec : UInt64) {packet : PacketEnvelope}
    (h : packet.messageKind = .event) :
    VideoMove (encodedFrameOf packet) m.videoPart (m.renderVideo nowUsec packet).2.videoPart := by
  unfold renderVideo
  rw [if_neg (not_not.mpr h)]
  dsimp only
  split
  next hfirst =>
    dsimp only
    rw [videoPart_requestRecoveryKeyFrame]
    exact VideoMove.firstFrameMissing hfirst.1 hfirst.2.1 hfirst.2.2
  next hadmitted =>
  split
  next hstale => exact VideoMove.stale hstale.1 hstale.2
  next hfresh =>
  refine videoMove_handleDecoded rfl ⟨fun hnone => ?_, fun hsome => ?_⟩ nowUsec
  · by_contra hrefused
    push Not at hrefused
    exact hadmitted ⟨hnone, eq_false_of_ne_true hrefused.2, eq_false_of_ne_true hrefused.1⟩
  · exact UInt64.not_le.mp fun hle => hfresh ⟨hsome, hle⟩

end DisplayClientModule

/-! ## Runs -/

/-- The decoder has said of the last frame that it waits for more, or has given back an older one for
it. -/
def AwaitsInput (given : List (EncodedFrame × DecodedFrame)) : Prop :=
  ∃ last ∈ given.getLast?, last.2.decodeStatus = .needsMoreInput ∨
    Acceptable last.1 last.2 ∧ last.2.frameId < last.1.frameId

/-- **What the frames of a run leave behind.** -/
structure VideoPart.Sound (s : VideoPart) : Prop where
  count : s.renderedFrames = s.rendered.length
  unrendered : s.renderedFrames = 0 → s.lastRenderedFrameId = 0
  bound : ∀ frame ∈ s.rendered, frame.frameId ≤ s.lastRenderedFrameId
  last : ∀ frame ∈ s.rendered.getLast?, frame.frameId = s.lastRenderedFrameId
  increasing : s.rendered.Pairwise fun first second => first.frameId < second.frameId
  consecutive : s.rendered.IsChain fun first second =>
    second.frameId = first.frameId + 1 ∨ second.keyFrame = true
  accounted : s.receivedFrames =
    s.renderedFrames + s.droppedFrames + s.decoderPendingFrames + s.renderErrors
  pending : s.renderedFrames = 0 → s.decoderHasPendingInput = true → AwaitsInput s.given

namespace VideoPart

variable {encoded : EncodedFrame} {decoded : DecodedFrame} {s t : VideoPart}

theorem awaitsInput_concat {given : List (EncodedFrame × DecodedFrame)} :
    AwaitsInput (given ++ [(encoded, decoded)]) ↔ decoded.decodeStatus = .needsMoreInput ∨
      Acceptable encoded decoded ∧ decoded.frameId < encoded.frameId := by
  simp [AwaitsInput]

/-- A sound part, after a frame that is rendered. -/
theorem Sound.rendered (h : s.Sound) (hfollows : Follows s decoded) :
    (s.rendered ++ [decoded]).Pairwise (fun first second => first.frameId < second.frameId) ∧
      (s.rendered ++ [decoded]).IsChain (fun first second =>
        second.frameId = first.frameId + 1 ∨ second.keyFrame = true) ∧
      ∀ frame ∈ s.rendered ++ [decoded], frame.frameId ≤ decoded.frameId := by
  refine ⟨?_, ?_, fun frame hframe => ?_⟩
  · refine List.pairwise_append.mpr ⟨h.increasing, List.pairwise_singleton _ _, ?_⟩
    intro frame hframe last hlast
    rw [List.mem_singleton.mp hlast]
    exact UInt64.lt_of_le_of_lt (h.bound frame hframe) hfollows.newer
  · refine List.isChain_append.mpr ⟨h.consecutive, List.isChain_singleton _, ?_⟩
    intro frame hframe last hlast
    rw [List.head?_cons, Option.mem_some_iff] at hlast
    have hsome : 0 < s.renderedFrames := by
      rw [h.count]
      exact List.length_pos_of_mem (List.mem_of_getLast? hframe)
    rw [← hlast, h.last frame hframe]
    exact hfollows.next hsome
  · rcases List.mem_append.mp hframe with hold | hnew
    · exact UInt64.le_of_lt (UInt64.lt_of_le_of_lt (h.bound frame hold) hfollows.newer)
    · rw [List.mem_singleton.mp hnew]
      exact UInt64.le_refl _

/-- **Every frame leaves the part sound.** -/
theorem Sound.move (h : s.Sound) (hmove : VideoMove encoded s t) : t.Sound := by
  have haccounted := h.accounted
  cases hmove with
  | firstFrameMissing unrendered idle delta =>
    refine ⟨h.count, h.unrendered, h.bound, h.last, h.increasing, h.consecutive, ?_, h.pending⟩
    simp only [receive, drop, request]
    omega
  | stale rendered old =>
    refine ⟨h.count, h.unrendered, h.bound, h.last, h.increasing, h.consecutive, ?_, h.pending⟩
    simp only [receive, drop]
    omega
  | pending admits status =>
    refine ⟨h.count, h.unrendered, h.bound, h.last, h.increasing, h.consecutive, ?_, fun _ _ => ?_⟩
    · simp only [receive, give]
      omega
    · exact awaitsInput_concat.mpr (Or.inl status)
  | decodeFailed admits status bad =>
    refine ⟨h.count, h.unrendered, h.bound, h.last, h.increasing, h.consecutive, ?_, fun _ hpending => ?_⟩
    · simp only [receive, give, drop, request]
      omega
    · cases hpending
  | staleDecoded admits good old =>
    refine ⟨h.count, h.unrendered, h.bound, h.last, h.increasing, h.consecutive, ?_, fun hnone _ => ?_⟩
    · simp only [receive, give, drop]
      omega
    · rw [show s.lastRenderedFrameId = 0 from h.unrendered hnone] at old
      exact absurd (UInt64.le_zero_iff.mp old) good.frameId
  | gap admits good newer rendered delta =>
    refine ⟨h.count, h.unrendered, h.bound, h.last, h.increasing, h.consecutive, ?_, fun hnone _ => ?_⟩
    · simp only [receive, give, drop, request]
      omega
    · exact absurd hnone (Nat.pos_iff_ne_zero.mp rendered)
  | renderError admits good follows =>
    refine ⟨h.count, h.unrendered, h.bound, h.last, h.increasing, h.consecutive, ?_, fun _ hpending => ?_⟩
    · simp only [receive, give, request]
      omega
    · exact awaitsInput_concat.mpr (Or.inr ⟨good, of_decide_eq_true hpending⟩)
  | rendered admits good follows =>
    obtain ⟨hincreasing, hconsecutive, hbound⟩ := h.rendered follows
    refine ⟨?_, nofun, hbound, ?_, hincreasing, hconsecutive, ?_, nofun⟩
    · simp only [List.length_append, List.length_singleton, h.count]
    · intro frame hframe
      rw [List.getLast?_concat, Option.mem_some_iff] at hframe
      rw [← hframe]
    · simp only [receive, give]
      omega

/-- A call of `requestKeyFrame` leaves it sound. -/
theorem Sound.request (h : s.Sound) (reason : DisplayKeyframeReason) : (s.request reason).Sound :=
  ⟨h.count, h.unrendered, h.bound, h.last, h.increasing, h.consecutive, h.accounted, h.pending⟩

end VideoPart

/-- A packet with a frame. -/
def isFrame (packet : PacketEnvelope) : Bool :=
  packet.packetType == .video && packet.messageKind == .event

namespace DisplayClientModule

variable {D R : Type} [IVideoDecoder D] [IDisplayRenderer R]

/-- **A packet without a frame** leaves the part alone. -/
theorem videoPart_handlePacket (m : RecordedClient D R) (nowUsec : UInt64) {packet : PacketEnvelope}
    (h : isFrame packet = false) : (m.handlePacket nowUsec packet).videoPart = m.videoPart := by
  unfold handlePacket
  split
  next hvideo =>
    have hkind : packet.messageKind ≠ .event := by
      rintro hevent
      rw [isFrame, hvideo, hevent] at h
      cases h
    rw [renderVideo, if_pos hkind]
  next =>
    split
    · exact videoPart_completeKeyframeRequest _ _
    · rfl

/-- **A packet with a frame** is rendered or not. -/
theorem videoMove_handlePacket (m : RecordedClient D R) (nowUsec : UInt64)
    {packet : PacketEnvelope} (h : isFrame packet = true) :
    VideoMove (encodedFrameOf packet) m.videoPart (m.handlePacket nowUsec packet).videoPart := by
  rw [isFrame, Bool.and_eq_true, beq_iff_eq, beq_iff_eq] at h
  rw [handlePacket, if_pos h.1]
  exact m.videoMove_renderVideo nowUsec h.2

/-- **Every call leaves the part sound.** -/
theorem sound_step {m : RecordedClient D R} (h : m.videoPart.Sound) (op : ClientOp × UInt64) :
    (m.step op).videoPart.Sound := by
  obtain ⟨op, nowUsec⟩ := op
  cases op with
  | attach runtime => exact h
  | start =>
    show m.start.2.videoPart.Sound
    unfold start
    split
    · exact h
    · exact h
  | stop => exact h
  | detach => exact h
  | pauseForReconnect => exact h
  | resumeAfterReconnect options =>
    show (m.resumeAfterReconnect nowUsec options).videoPart.Sound
    unfold resumeAfterReconnect
    dsimp only
    split
    · rw [videoPart_requestKeyFrame]
      exact VideoPart.Sound.request (s := m.videoPart) h _
    · exact h
  | handlePacket packet =>
    show (m.handlePacket nowUsec packet).videoPart.Sound
    cases hframe : isFrame packet with
    | false => rwa [m.videoPart_handlePacket nowUsec hframe]
    | true => exact h.move (m.videoMove_handlePacket nowUsec hframe)
  | requestKeyFrame reason =>
    show (m.requestKeyFrame nowUsec reason).2.videoPart.Sound
    rw [videoPart_requestKeyFrame]
    exact h.request reason
  | expireKeyframeRequests =>
    show (m.expireKeyframeRequests nowUsec).2.videoPart.Sound
    have hsame : (m.expireKeyframeRequests nowUsec).2.videoPart = m.videoPart :=
      videoPart_foldl (m.keyframeRequestsTracker.expire nowUsec).2.1 m
    rwa [hsame]

end DisplayClientModule

/-! ## What a run says of the client -/

open DisplayClientModule (encodedFrameOf)

/-- **The frames that are rendered, and the counters.** -/
structure InOrder (s : VideoPart) : Prop where
  count : s.renderedFrames = s.rendered.length
  increasing : s.rendered.Pairwise fun first second => first.frameId < second.frameId
  consecutive : s.rendered.IsChain fun first second =>
    second.frameId = first.frameId + 1 ∨ second.keyFrame = true
  accounted : s.receivedFrames =
    s.renderedFrames + s.droppedFrames + s.decoderPendingFrames + s.renderErrors

/-- The four counters in which a frame can end. -/
def VideoPart.tally (s : VideoPart) : ℕ × ℕ × ℕ × ℕ :=
  (s.renderedFrames, s.droppedFrames, s.decoderPendingFrames, s.renderErrors)

/-- The frame, or what the decoder has given back for it, is no newer than the last one that was
rendered. -/
def StaleDrop (s t : VideoPart) (encoded : EncodedFrame) : Prop :=
  0 < s.renderedFrames ∧ encoded.frameId ≤ s.lastRenderedFrameId ∨
    ∃ decoded, t.given = s.given ++ [(encoded, decoded)] ∧ Acceptable encoded decoded ∧
      decoded.frameId ≤ s.lastRenderedFrameId

/-- The frame is dropped, and not as a stale one, or the renderer has refused it. -/
def NeedsKeyFrame (s t : VideoPart) (encoded : EncodedFrame) : Prop :=
  s.droppedFrames < t.droppedFrames ∧ ¬StaleDrop s t encoded ∨ s.renderErrors < t.renderErrors

/-- **What a frame does**: it is counted once, the decoder is given it if it may be, and a key frame
is requested once if one is needed. -/
structure FrameHandled (s t : VideoPart) (encoded : EncodedFrame) : Prop where
  received : t.receivedFrames = s.receivedFrames + 1
  counted : ∃ one ∈ [(1, 0, 0, 0), (0, 1, 0, 0), (0, 0, 1, 0), (0, 0, 0, 1)],
    t.tally = s.tally + one
  given : t.given = s.given ∨ ∃ decoded, t.given = s.given ++ [(encoded, decoded)]
  first : s.rendered = [] → t.given ≠ s.given → encoded.keyFrame = true ∨ AwaitsInput s.given
  requested : NeedsKeyFrame s t encoded → ∃ reason, t.requested = s.requested ++ [reason]
  unrequested : ¬NeedsKeyFrame s t encoded → t.requested = s.requested

/-- **What a packet does**: one without a frame nothing that is counted or requested. -/
structure PacketHandled (s t : VideoPart) (packet : PacketEnvelope) : Prop where
  frame : isFrame packet = true → FrameHandled s t (encodedFrameOf packet)
  other : isFrame packet = false → t = s

section Frames

variable {s t : VideoPart} {encoded : EncodedFrame} {decoded : DecodedFrame}

/-- What the decoder has given back is known from what it was given. -/
theorem staleDrop_give_iff (h : t.given = s.given ++ [(encoded, decoded)])
    (hadmits : s.Admits encoded) : StaleDrop s t encoded ↔
      Acceptable encoded decoded ∧ decoded.frameId ≤ s.lastRenderedFrameId := by
  constructor
  · rintro (⟨hrendered, hold⟩ | ⟨decoded', hgiven, hstale⟩)
    · exact absurd hold (UInt64.not_le.mpr (hadmits.fresh hrendered))
    · rw [h, List.append_cancel_left_eq, List.singleton_inj, Prod.mk.injEq] at hgiven
      rwa [hgiven.2]
  · exact fun hstale => Or.inr ⟨decoded, h, hstale⟩

theorem ne_append_singleton {α : Type} (l : List α) (a : α) : l ≠ l ++ [a] := by
  intro h
  have hlength := congrArg List.length h
  rw [List.length_append, List.length_singleton] at hlength
  omega

/-- What goes to the decoder before anything is rendered is a key frame, or it is waited for. -/
theorem first_of_admits (hs : s.Sound) (hadmits : s.Admits encoded) (hnone : s.rendered = []) :
    encoded.keyFrame = true ∨ AwaitsInput s.given := by
  have hzero : s.renderedFrames = 0 := by rw [hs.count, hnone, List.length_nil]
  exact (hadmits.first hzero).imp_right (hs.pending hzero)

/-- **Every frame is handled**, in each of the eight ways. -/
theorem frameHandled_of_videoMove (hs : s.Sound) (h : VideoMove encoded s t) :
    FrameHandled s t encoded := by
  cases h with
  | firstFrameMissing unrendered idle delta =>
    have hstale : ¬StaleDrop s (s.receive.drop.request .firstFrameTimeout) encoded := by
      rintro (⟨hrendered, -⟩ | ⟨decoded, hgiven, -⟩)
      · exact absurd unrendered (Nat.pos_iff_ne_zero.mp hrendered)
      · exact ne_append_singleton _ _ hgiven
    refine ⟨rfl, ⟨(0, 1, 0, 0), by simp, rfl⟩, Or.inl rfl, fun _ hne => absurd rfl hne,
      fun _ => ⟨_, rfl⟩, fun hnot => ?_⟩
    exact absurd (Or.inl ⟨Nat.lt_succ_self _, hstale⟩) hnot
  | stale rendered old =>
    refine ⟨rfl, ⟨(0, 1, 0, 0), by simp, rfl⟩, Or.inl rfl, fun _ hne => absurd rfl hne,
      fun hneeds => ?_, fun _ => rfl⟩
    rcases hneeds with ⟨-, hnot⟩ | herror
    · exact absurd (Or.inl ⟨rendered, old⟩) hnot
    · exact absurd herror (lt_irrefl _)
  | @pending decoded admits status =>
    refine ⟨rfl, ⟨(0, 0, 1, 0), by simp, rfl⟩, Or.inr ⟨decoded, rfl⟩,
      fun hnone _ => first_of_admits hs admits hnone, fun hneeds => ?_, fun _ => rfl⟩
    rcases hneeds with ⟨hdropped, -⟩ | herror
    · exact absurd hdropped (lt_irrefl _)
    · exact absurd herror (lt_irrefl _)
  | @decodeFailed decoded admits status bad =>
    refine ⟨rfl, ⟨(0, 1, 0, 0), by simp, rfl⟩, Or.inr ⟨decoded, rfl⟩,
      fun hnone _ => first_of_admits hs admits hnone, fun _ => ⟨_, rfl⟩, fun hnot => ?_⟩
    refine absurd (Or.inl ⟨Nat.lt_succ_self _, fun hstale => ?_⟩) hnot
    exact bad ((staleDrop_give_iff rfl admits).mp hstale).1
  | @staleDecoded decoded admits good old =>
    refine ⟨rfl, ⟨(0, 1, 0, 0), by simp, rfl⟩, Or.inr ⟨decoded, rfl⟩,
      fun hnone _ => first_of_admits hs admits hnone, fun hneeds => ?_, fun _ => rfl⟩
    rcases hneeds with ⟨-, hnot⟩ | herror
    · exact absurd ((staleDrop_give_iff rfl admits).mpr ⟨good, old⟩) hnot
    · exact absurd herror (lt_irrefl _)
  | @gap decoded admits good newer rendered delta =>
    refine ⟨rfl, ⟨(0, 1, 0, 0), by simp, rfl⟩, Or.inr ⟨decoded, rfl⟩,
      fun hnone _ => first_of_admits hs admits hnone, fun _ => ⟨_, rfl⟩, fun hnot => ?_⟩
    refine absurd (Or.inl ⟨Nat.lt_succ_self _, fun hstale => ?_⟩) hnot
    exact absurd ((staleDrop_give_iff rfl admits).mp hstale).2 (UInt64.not_le.mpr newer)
  | @renderError decoded admits good follows =>
    exact ⟨rfl, ⟨(0, 0, 0, 1), by simp, rfl⟩, Or.inr ⟨decoded, rfl⟩,
      fun hnone _ => first_of_admits hs admits hnone, fun _ => ⟨_, rfl⟩,
      fun hnot => absurd (Or.inr (Nat.lt_succ_self _)) hnot⟩
  | @rendered decoded admits good follows =>
    refine ⟨rfl, ⟨(1, 0, 0, 0), by simp, rfl⟩, Or.inr ⟨decoded, rfl⟩,
      fun hnone _ => first_of_admits hs admits hnone, fun hneeds => ?_, fun _ => rfl⟩
    rcases hneeds with ⟨hdropped, -⟩ | herror
    · exact absurd hdropped (lt_irrefl _)
    · exact absurd herror (lt_irrefl _)

end Frames

/-- A client as it is built. -/
def RecordedClient.start {D R : Type} (decoder : D) (renderer : R) : RecordedClient D R where
  decoder := { decoder := decoder }
  renderer := { renderer := renderer }

end Display
end FusionDesk
