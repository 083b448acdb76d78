import FusionDesk.Clipboard.FdclRoundTrip
import FusionDesk.Clipboard.Policy

/-!
# What the decoders promise

A request that is accepted has the ids that its answer repeats, so the answer is not refused for
them; the id of a drag that is accepted is not zero either.  A payload that is refused is refused
with a short text, so the text fits into an error detail.

A scale comes back in whole thousandths, so a message with another scale is accepted as the message
that was `written`.

* `decodeFdclPayload_ok`: a message is accepted if what is written of it is within the limits.
* `resultIdentities_decodeFdclPayload`: the ids of what is accepted.
* `shortText_decodeFdclPayload`, `stringLimits_decodeTransferFileList`: the texts.
-/

namespace FusionDesk
namespace Clipboard

open Protocol ByteReader Reader Fdcl

instance : DecidablePred StringLimits :=
  fun value => inferInstanceAs (Decidable (value.length ≤ maxStringBytes))

/-! ## Scales -/

/-- The scale that is written. -/
def writtenScale (value : ℚ) : ℚ :=
  ((UInt32.ofNat ⌊(if value ≤ 0 then 1 else value) * 1000⌋.toNat).toNat : ℚ) / 1000

theorem appendScale_written (output : ByteBuffer) {value : ℚ}
    (h : ScaleLimits (writtenScale value)) :
    appendScale output (writtenScale value) = appendScale output value := by
  obtain ⟨milli, hpos, -, heq⟩ := h
  have hmilli : (UInt32.ofNat ⌊(if value ≤ 0 then 1 else value) * 1000⌋.toNat).toNat = milli := by
    rw [writtenScale, div_left_inj' (by norm_num)] at heq
    exact_mod_cast heq
  have hscale : ¬((milli : ℚ) / 1000 ≤ 0) := by
    have : (0 : ℚ) < milli := by exact_mod_cast hpos
    exact not_le.mpr (by positivity)
  have hsame : UInt32.ofNat milli =
      UInt32.ofNat ⌊(if value ≤ 0 then 1 else value) * 1000⌋.toNat := by
    rw [← hmilli, UInt32.ofNat_toNat]
  rw [heq, appendScale, if_neg hscale]
  simp [appendScale, hsame]

def DragSurfaceCoordinate.written (point : DragSurfaceCoordinate) : DragSurfaceCoordinate :=
  { point with scale := writtenScale point.scale }

def TransferPresentation.written (presentation : TransferPresentation) : TransferPresentation :=
  { presentation with
    dragImage := presentation.dragImage.map fun image =>
      { image with scale := writtenScale image.scale } }

namespace FdclMessage

/-- The message as it is written. -/
def written : FdclMessage → FdclMessage
  | formatList payload =>
    formatList { payload with presentation := payload.presentation.map (·.written) }
  | dragStart payload =>
    dragStart { start := { payload.start with start := payload.start.start.written } }
  | dragMove payload => dragMove { payload with point := payload.point.written }
  | dragDrop payload => dragDrop { payload with point := payload.point.written }
  | message => message

end FdclMessage

theorem appendDragSurfaceCoordinate_written (body : ByteBuffer) {point : DragSurfaceCoordinate}
    (h : CoordinateLimits point.written) :
    appendDragSurfaceCoordinate body point.written = appendDragSurfaceCoordinate body point := by
  simp only [appendDragSurfaceCoordinate, DragSurfaceCoordinate.written]
  exact appendScale_written _ h.scale

theorem appendPresentation_written (body : ByteBuffer) {presentation : TransferPresentation}
    (h : PresentationLimits presentation.written) :
    appendPresentation body presentation.written = appendPresentation body presentation := by
  cases hdrag : presentation.dragImage with
  | none => simp [appendPresentation, TransferPresentation.written, hdrag]
  | some image =>
    have himage := h.dragImage { image with scale := writtenScale image.scale }
      (by simp [TransferPresentation.written, hdrag])
    simp only [appendPresentation, TransferPresentation.written, hdrag, Option.map_some,
      Option.isSome_some, appendDragImage, appendScale_written _ himage.scale]

theorem encode_written {message : FdclMessage} (h : message.written.WithinLimits) :
    message.written.encode = message.encode := by
  cases message with
  | formatList payload =>
    cases hpresentation : payload.presentation with
    | none => simp [FdclMessage.written, hpresentation, FdclMessage.encode, encodeFdclFormatList]
    | some presentation =>
      have hlimits : PresentationLimits presentation.written :=
        h.presentation _ (by simp [hpresentation])
      simp [FdclMessage.written, hpresentation, FdclMessage.encode, encodeFdclFormatList,
        appendPresentation_written _ hlimits]
  | dragStart payload =>
    exact congrArg (wrap .dragStart) (appendDragSurfaceCoordinate_written _ h.point)
  | dragMove payload =>
    exact congrArg (wrap .dragMove) (appendDragSurfaceCoordinate_written _ h.point)
  | dragDrop payload =>
    exact congrArg (wrap .dragDrop) (appendDragSurfaceCoordinate_written _ h.point)
  | _ => rfl

/-- **A message is accepted if what is written of it is within the limits.** -/
theorem decodeFdclPayload_ok {message : FdclMessage} (h : message.written.WithinLimits) :
    (decodeFdclPayload message.encode).ok = true := by
  rw [← encode_written h, decodeFdclPayload_encode h]
  cases message.written with
  | _ => rfl

/-! ## The ids of what is accepted -/

/-- The ids of a request are not zero, where the result is one, and there is no error text. -/
structure RequestIdentities (result : FdclDecodeResult) : Prop where
  readRequest : result.operation = .readFormatRequest →
    ¬(result.readRequest.bundleId = 0 ∨ result.readRequest.offerId = 0 ∨
      result.readRequest.ownerEpoch = 0 ∨ result.readRequest.sourceId = 0 ∨
      result.readRequest.formatId = 0)
  fileRangeRequest : result.operation = .fileRangeRequest →
    ¬(result.fileRangeRequest.bundleId = 0 ∨ result.fileRangeRequest.offerId = 0 ∨
      result.fileRangeRequest.ownerEpoch = 0 ∨ result.fileRangeRequest.sourceId = 0 ∨
      result.fileRangeRequest.objectId = 0)
  objectLock : result.operation = .lockObject ∨ result.operation = .unlockObject →
    ¬(result.objectLock.bundleId = 0 ∨ result.objectLock.offerId = 0 ∨
      result.objectLock.ownerEpoch = 0 ∨ result.objectLock.sourceId = 0 ∨
      result.objectLock.objectId = 0)
  unlock : result.operation = .unlockObject → result.objectLock.lockId ≠ 0
  noError : result.error = ""

/-- A result of another operation. -/
theorem requestIdentities_of_other {result : FdclDecodeResult}
    (h : (result.operation == .readFormatRequest || result.operation == .fileRangeRequest ||
      result.operation == .lockObject || result.operation == .unlockObject) = false)
    (herror : result.error = "") : RequestIdentities result := by
  simp only [Bool.or_eq_false_iff, beq_eq_false_iff_ne] at h
  obtain ⟨⟨⟨hread, hrange⟩, hlock⟩, hunlock⟩ := h
  refine ⟨fun heq => absurd heq hread, fun heq => absurd heq hrange, fun heq => ?_,
    fun heq => absurd heq hunlock, herror⟩
  exact absurd heq (not_or.mpr ⟨hlock, hunlock⟩)

/-- The ids of a drag are not zero, where the result is a message about one. -/
structure DragIdentities (result : FdclDecodeResult) : Prop where
  dragMove : result.operation = .dragMove → result.dragMove.dragSessionId ≠ 0
  dragDrop : result.operation = .dragDrop → result.dragDrop.dragSessionId ≠ 0
  dragCancel : result.operation = .dragCancel → result.dragCancel.dragSessionId ≠ 0

theorem dragIdentities_of_other {result : FdclDecodeResult}
    (h : (result.operation == .dragMove || result.operation == .dragDrop ||
      result.operation == .dragCancel) = false) : DragIdentities result := by
  simp only [Bool.or_eq_false_iff, beq_eq_false_iff_ne] at h
  obtain ⟨⟨hmove, hdrop⟩, hcancel⟩ := h
  exact ⟨fun heq => absurd heq hmove, fun heq => absurd heq hdrop, fun heq => absurd heq hcancel⟩

/-- What the decoders check of the ids. -/
structure ResultIdentities (result : FdclDecodeResult) : Prop where
  request : RequestIdentities result
  drag : DragIdentities result

/-- A result of an operation whose ids are not checked. -/
theorem resultIdentities_of_other {result : FdclDecodeResult}
    (hrequest : (result.operation == .readFormatRequest || result.operation == .fileRangeRequest ||
      result.operation == .lockObject || result.operation == .unlockObject) = false)
    (hdrag : (result.operation == .dragMove || result.operation == .dragDrop ||
      result.operation == .dragCancel) = false)
    (herror : result.error = "") : ResultIdentities result :=
  ⟨requestIdentities_of_other hrequest herror, dragIdentities_of_other hdrag⟩

theorem yields_decodeCapabilities : Yields decodeCapabilities ResultIdentities :=
  Yields.bind' fun _ => Yields.bind' fun _ => Yields.pure (resultIdentities_of_other rfl rfl rfl)

theorem yields_decodeFormatList : Yields decodeFormatList ResultIdentities :=
  Yields.bind' fun ⟨_, _⟩ => Yields.bind' fun _ => Yields.bind' fun _ => Yields.bind' fun _ =>
    Yields.bind' fun _ => Yields.bind' fun _ => Yields.pure (resultIdentities_of_other rfl rfl rfl)

theorem yields_decodeReadRequest : Yields decodeReadRequest ResultIdentities := by
  refine Yields.bind' fun request => Yields.bind' fun _ => Yields.bind' fun _ =>
    Yields.bind' fun canonicalFormat => Yields.bind' fun _ => Yields.refuseIf_bind fun hvalid =>
    Yields.pure ⟨⟨fun _ hzero => hvalid ?_, nofun, nofun, nofun, rfl⟩, dragIdentities_of_other rfl⟩
  tauto

theorem yields_decodeReadResponse : Yields decodeReadResponse ResultIdentities :=
  Yields.bind' fun _ => Yields.bind' fun _ => Yields.bind' fun _ => Yields.bind' fun _ =>
    Yields.bind' fun _ => Yields.bind' fun _ => Yields.bind' fun _ => Yields.bind' fun _ =>
    Yields.bind' fun _ => Yields.pure (resultIdentities_of_other rfl rfl rfl)

theorem yields_decodeErrorDetail : Yields decodeErrorDetail ResultIdentities :=
  Yields.bind' fun _ => Yields.bind' fun _ => Yields.bind' fun _ =>
    Yields.pure (resultIdentities_of_other rfl rfl rfl)

theorem yields_decodeFileRangeRequest : Yields decodeFileRangeRequest ResultIdentities := by
  refine Yields.bind' fun ⟨request, _⟩ => Yields.bind' fun _ => Yields.bind' fun _ =>
    Yields.refuseIf_bind fun hvalid =>
    Yields.pure ⟨⟨nofun, fun _ hzero => hvalid ?_, nofun, nofun, rfl⟩, dragIdentities_of_other rfl⟩
  tauto

theorem yields_decodeFileRangeResponse : Yields decodeFileRangeResponse ResultIdentities :=
  Yields.bind' fun ⟨_, _, _⟩ => Yields.bind' fun _ => Yields.bind' fun _ => Yields.bind' fun _ =>
    Yields.bind' fun _ => Yields.bind' fun _ => Yields.pure (resultIdentities_of_other rfl rfl rfl)

theorem yields_decodeFdclObjectLockBody {operation : FdclOperation}
    (h : operation = .lockObject ∨ operation = .unlockObject) :
    Yields (decodeFdclObjectLockBody operation) ResultIdentities := by
  refine Yields.bind' fun ⟨request, _⟩ => Yields.bind' fun _ => Yields.bind' fun _ =>
    Yields.refuseIf_bind fun hvalid => Yields.refuseIf_bind fun hlock =>
    Yields.pure ⟨⟨fun hread => ?_, fun hrange => ?_, fun _ => hvalid, fun hunlock hzero => ?_,
      rfl⟩, dragIdentities_of_other ?_⟩
  · rcases h with rfl | rfl <;> cases hread
  · rcases h with rfl | rfl <;> cases hrange
  · exact hlock ⟨hunlock, hzero⟩
  · rcases h with rfl | rfl <;> rfl

theorem yields_decodeDragStart : Yields decodeDragStart ResultIdentities :=
  Yields.bind' fun ⟨_, _⟩ => Yields.bind' fun _ => Yields.bind' fun _ => Yields.bind' fun _ =>
    Yields.bind' fun _ => Yields.bind' fun _ => Yields.pure (resultIdentities_of_other rfl rfl rfl)

theorem yields_decodeDragPoint {operation : FdclOperation}
    (h : operation = .dragMove ∨ operation = .dragDrop) :
    Yields (decodeDragPoint operation) ResultIdentities := by
  refine Yields.bind' fun ⟨_, _, _⟩ => Yields.bind' fun _ => Yields.bind' fun _ =>
    Yields.bind' fun _ => Yields.bind' fun _ => Yields.refuseIf_bind fun hidentity => ?_
  rcases h with rfl | rfl
  · exact Yields.pure ⟨requestIdentities_of_other rfl rfl, fun _ => hidentity, nofun, nofun⟩
  · exact Yields.pure ⟨requestIdentities_of_other rfl rfl, nofun, fun _ => hidentity, nofun⟩

theorem yields_decodeDragCancel : Yields decodeDragCancel ResultIdentities :=
  Yields.bind' fun ⟨_, _⟩ => Yields.bind' fun _ => Yields.bind' fun _ => Yields.bind' fun _ =>
    Yields.refuseIf_bind fun hidentity =>
    Yields.pure ⟨requestIdentities_of_other rfl rfl, nofun, nofun, fun _ => hidentity⟩

theorem yields_decodeCancel : Yields decodeCancel ResultIdentities :=
  Yields.bind' fun ⟨_, _⟩ => Yields.bind' fun _ => Yields.bind' fun _ => Yields.bind' fun _ =>
    Yields.bind' fun _ => Yields.pure (resultIdentities_of_other rfl rfl rfl)

theorem yields_decodeBody (operation : FdclOperation) :
    Yields (decodeBody operation) ResultIdentities :=
  Yields.ite yields_decodeCapabilities <| Yields.ite yields_decodeFormatList <|
    Yields.ite yields_decodeReadRequest <| Yields.ite yields_decodeReadResponse <|
    Yields.ite yields_decodeErrorDetail <| Yields.ite yields_decodeFileRangeRequest <|
    Yields.ite yields_decodeFileRangeResponse <|
    Yields.ite (yields_decodeFdclObjectLockBody (Or.inl rfl)) <|
    Yields.ite (yields_decodeFdclObjectLockBody (Or.inr rfl)) <|
    Yields.ite yields_decodeDragStart <| Yields.ite (yields_decodeDragPoint (Or.inl rfl)) <|
    Yields.ite (yields_decodeDragPoint (Or.inr rfl)) <| Yields.ite yields_decodeDragCancel <|
    Yields.ite yields_decodeCancel fun _ _ _ _ h => nomatch h

/-- **The ids of what is accepted are not zero.** -/
theorem resultIdentities_decodeFdclPayload {payload : ByteBuffer}
    (h : (decodeFdclPayload payload).ok = true) : ResultIdentities (decodeFdclPayload payload) := by
  obtain ⟨operation, body, -, -, -, hrun⟩ := decodeFdclPayload_fullyRead h
  exact yields_decodeBody operation _ _ _ _ hrun

/-! ## The texts of the errors -/

/-- The text fits into an error detail. -/
def ShortText (text : String) : Prop := StringLimits (bytesOf text)

instance : DecidablePred ShortText := fun text => inferInstanceAs (Decidable (StringLimits (bytesOf text)))

theorem refuses_withError {α : Type} {text : String} {r : Reader String α} (htext : ShortText text)
    (h : Refuses r ShortText) : Refuses (withError text r) ShortText := by
  refine Refuses.named (fun error herror => ?_) h
  split
  · exact htext
  · exact herror

theorem shortText_empty : ShortText "" := by decide

theorem refuses_readU16 : Refuses readU16 ShortText := Refuses.checked shortText_empty

theorem refuses_readU32 : Refuses readU32 ShortText := Refuses.checked shortText_empty

theorem refuses_readI32 : Refuses readI32 ShortText :=
  refuses_readU32.bind fun _ => Refuses.pure _

theorem refuses_readU64 : Refuses readU64 ShortText := Refuses.checked shortText_empty

theorem refuses_readBool : Refuses readBool ShortText := Refuses.checked shortText_empty

/-- A check whose text is short. -/
theorem refuses_refuseIf_bind {α : Type} {c : Prop} [Decidable c] {text : String}
    {f : Unit → Reader String α} (htext : ShortText text) (hf : Refuses (f ()) ShortText) :
    Refuses (refuseIf c text >>= f) ShortText :=
  (Refuses.refuseIf htext).bind fun _ => hf

theorem refuses_expectEnd_bind {α : Type} {text : String} {f : Unit → Reader String α}
    (htext : ShortText text) (hf : Refuses (f ()) ShortText) :
    Refuses (expectEnd text >>= f) ShortText :=
  (Refuses.expectEnd htext).bind fun _ => hf

theorem refuses_readScale : Refuses readScale ShortText :=
  refuses_readU32.bind fun _ => refuses_refuseIf_bind shortText_empty (Refuses.pure _)

theorem refuses_readEncodingMode : Refuses readEncodingMode ShortText :=
  refuses_readU16.bind fun _ => refuses_refuseIf_bind shortText_empty (Refuses.pure _)

theorem refuses_readString : Refuses readString ShortText :=
  (refuses_withError (by decide) refuses_readU16).bind fun _ =>
    refuses_refuseIf_bind (by decide) (Refuses.bytes (by decide))

theorem refuses_readDragSurfaceCoordinate : Refuses readDragSurfaceCoordinate ShortText := by
  refine (refuses_withError (by decide) ?_).bind fun ⟨_, _⟩ =>
    refuses_refuseIf_bind (by decide) (refuses_refuseIf_bind (by decide) (Refuses.pure _))
  exact refuses_readU16.bind fun _ => refuses_readU16.bind fun _ => refuses_readI32.bind fun _ =>
    refuses_readI32.bind fun _ => refuses_readU32.bind fun _ => refuses_readU32.bind fun _ =>
    refuses_readScale.bind fun _ => Refuses.pure _

theorem refuses_readCanonicalFormat : Refuses readCanonicalFormat ShortText :=
  refuses_readString.bind fun _ => refuses_refuseIf_bind (by decide) (Refuses.pure _)

theorem refuses_readCapabilities : Refuses readCapabilities ShortText := by
  refine (refuses_withError (by decide) ?_).bind fun ⟨_, _⟩ =>
    refuses_refuseIf_bind (by decide) <| (refuses_readCanonicalFormat.times _).bind fun _ =>
    Refuses.pure _
  exact refuses_readU16.bind fun _ => refuses_readU16.bind fun _ => refuses_readU64.bind fun _ =>
    refuses_readU64.bind fun _ => refuses_readU32.bind fun _ => refuses_readBool.bind fun _ =>
    refuses_readBool.bind fun _ => refuses_readBool.bind fun _ => refuses_readBool.bind fun _ =>
    refuses_readU32.bind fun _ => Refuses.pure _

theorem refuses_readIcon : Refuses readIcon ShortText := by
  refine (refuses_withError (by decide) ?_).bind fun _ =>
    refuses_refuseIf_bind (by decide) (Refuses.pure _)
  exact refuses_readString.bind fun _ => refuses_readU32.bind fun _ =>
    refuses_readU32.bind fun _ => refuses_readU64.bind fun _ => refuses_readBool.bind fun _ =>
    Refuses.pure _

theorem refuses_readDragImage : Refuses readDragImage ShortText := by
  refine (refuses_withError (by decide) ?_).bind fun _ =>
    refuses_refuseIf_bind (by decide) (Refuses.pure _)
  exact refuses_readString.bind fun _ => refuses_readU32.bind fun _ =>
    refuses_readU32.bind fun _ => refuses_readScale.bind fun _ => refuses_readI32.bind fun _ =>
    refuses_readI32.bind fun _ => refuses_readBool.bind fun _ => refuses_readBool.bind fun _ =>
    Refuses.pure _

theorem refuses_readOptional {α : Type} {r : Reader String α} (h : Refuses r ShortText)
    (present : Bool) : Refuses (readOptional present r) ShortText :=
  Refuses.ite (h.bind fun _ => Refuses.pure _) (Refuses.pure _)

theorem refuses_readPresentation : Refuses readPresentation ShortText := by
  refine (refuses_withError (by decide) ?_).bind fun ⟨_, _⟩ =>
    refuses_refuseIf_bind (by decide) <| (refuses_readIcon.times _).bind fun _ =>
    (refuses_withError (by decide) refuses_readBool).bind fun _ =>
    (refuses_readOptional refuses_readDragImage _).bind fun _ => Refuses.pure _
  exact refuses_readString.bind fun _ => refuses_readU32.bind fun _ =>
    refuses_readU16.bind fun _ => refuses_readU32.bind fun _ => refuses_readU16.bind fun _ =>
    refuses_readBool.bind fun _ => refuses_readU16.bind fun _ => Refuses.pure _

theorem refuses_readFormatRecord : Refuses readFormatRecord ShortText := by
  refine (refuses_withError (by decide) ?_).bind fun ⟨_, _⟩ =>
    refuses_refuseIf_bind (by decide) <| refuses_readString.bind fun _ =>
    refuses_readString.bind fun _ => refuses_refuseIf_bind (by decide) <|
    refuses_refuseIf_bind (by decide) (Refuses.pure _)
  exact refuses_readU64.bind fun _ => refuses_readU32.bind fun _ => refuses_readU64.bind fun _ =>
    refuses_readU32.bind fun _ => refuses_readU64.bind fun _ => refuses_readBool.bind fun _ =>
    refuses_readBool.bind fun _ => refuses_readEncodingMode.bind fun _ =>
    refuses_readU16.bind fun _ => Refuses.pure _

theorem refuses_decodeCapabilities : Refuses decodeCapabilities ShortText :=
  refuses_readCapabilities.bind fun _ => refuses_expectEnd_bind (by decide) (Refuses.pure _)

theorem refuses_readTrailingPresentation : Refuses readTrailingPresentation ShortText :=
  Refuses.atEnd.bind fun _ => Refuses.ite (Refuses.pure _) <|
    (refuses_withError (by decide) refuses_readBool).bind fun _ =>
      refuses_readOptional refuses_readPresentation _

theorem refuses_decodeFormatList : Refuses decodeFormatList ShortText := by
  refine (refuses_withError (by decide) ?_).bind fun ⟨_, _⟩ =>
    refuses_refuseIf_bind (by decide) <| refuses_refuseIf_bind (by decide) <|
    (refuses_readFormatRecord.times _).bind fun _ => refuses_readTrailingPresentation.bind fun _ =>
    refuses_expectEnd_bind (by decide) (Refuses.pure _)
  exact refuses_readU64.bind fun _ => refuses_readU64.bind fun _ => refuses_readU64.bind fun _ =>
    refuses_readU64.bind fun _ => refuses_readU16.bind fun _ => refuses_readU16.bind fun _ =>
    refuses_readU64.bind fun _ => refuses_readU64.bind fun _ => refuses_readU32.bind fun _ =>
    Refuses.pure _

theorem refuses_decodeReadRequest : Refuses decodeReadRequest ShortText := by
  refine (refuses_withError (by decide) ?_).bind fun _ =>
    (refuses_withError (by decide) refuses_readU16).bind fun _ =>
    refuses_refuseIf_bind (by decide) <| refuses_readString.bind fun _ =>
    refuses_expectEnd_bind (by decide) <| refuses_refuseIf_bind (by decide) (Refuses.pure _)
  exact refuses_readU64.bind fun _ => refuses_readU64.bind fun _ => refuses_readU64.bind fun _ =>
    refuses_readU64.bind fun _ => refuses_readU32.bind fun _ => refuses_readU64.bind fun _ =>
    refuses_readU32.bind fun _ => refuses_readU64.bind fun _ => refuses_readBool.bind fun _ =>
    refuses_readEncodingMode.bind fun _ => Refuses.pure _

theorem refuses_decodeReadResponse : Refuses decodeReadResponse ShortText := by
  refine (refuses_withError (by decide) ?_).bind fun _ =>
    (refuses_withError (by decide) refuses_readU16).bind fun _ =>
    refuses_refuseIf_bind (by decide) <| refuses_readString.bind fun _ =>
    (refuses_withError (by decide) refuses_readU32).bind fun _ =>
    refuses_refuseIf_bind (by decide) <| (Refuses.bytes (by decide)).bind fun _ =>
    refuses_expectEnd_bind (by decide) <| refuses_refuseIf_bind (by decide) (Refuses.pure _)
  exact refuses_readU64.bind fun _ => refuses_readU64.bind fun _ => refuses_readU64.bind fun _ =>
    refuses_readU64.bind fun _ => refuses_readU32.bind fun _ => refuses_readU64.bind fun _ =>
    refuses_readEncodingMode.bind fun _ => Refuses.pure _

theorem refuses_decodeFileRangeRequest : Refuses decodeFileRangeRequest ShortText := by
  refine (refuses_withError (by decide) ?_).bind fun ⟨_, _⟩ =>
    refuses_refuseIf_bind (by decide) <| refuses_expectEnd_bind (by decide) <|
    refuses_refuseIf_bind (by decide) (Refuses.pure _)
  exact refuses_readU64.bind fun _ => refuses_readU64.bind fun _ => refuses_readU64.bind fun _ =>
    refuses_readU64.bind fun _ => refuses_readU64.bind fun _ => refuses_readU32.bind fun _ =>
    refuses_readU64.bind fun _ => refuses_readU64.bind fun _ => refuses_readU16.bind fun _ =>
    Refuses.pure _

theorem refuses_decodeFileRangeResponse : Refuses decodeFileRangeResponse ShortText := by
  refine (refuses_withError (by decide) ?_).bind fun ⟨_, _, _⟩ =>
    refuses_refuseIf_bind (by decide) <| refuses_refuseIf_bind (by decide) <|
    (Refuses.bytes (by decide)).bind fun _ => refuses_expectEnd_bind (by decide) <|
    refuses_refuseIf_bind (by decide) (Refuses.pure _)
  exact refuses_readU64.bind fun _ => refuses_readU64.bind fun _ => refuses_readU64.bind fun _ =>
    refuses_readU64.bind fun _ => refuses_readU64.bind fun _ => refuses_readU32.bind fun _ =>
    refuses_readU64.bind fun _ => refuses_readBool.bind fun _ => refuses_readU16.bind fun _ =>
    refuses_readU32.bind fun _ => Refuses.pure _

theorem refuses_decodeFdclObjectLockBody (operation : FdclOperation) :
    Refuses (decodeFdclObjectLockBody operation) ShortText := by
  refine (refuses_withError (by decide) ?_).bind fun ⟨_, _⟩ =>
    refuses_refuseIf_bind (by decide) <| refuses_expectEnd_bind (by decide) <|
    refuses_refuseIf_bind (by decide) <| refuses_refuseIf_bind (by decide) (Refuses.pure _)
  exact refuses_readU64.bind fun _ => refuses_readU64.bind fun _ => refuses_readU64.bind fun _ =>
    refuses_readU64.bind fun _ => refuses_readU64.bind fun _ => refuses_readU32.bind fun _ =>
    refuses_readU64.bind fun _ => refuses_readU64.bind fun _ => refuses_readU16.bind fun _ =>
    Refuses.pure _

theorem refuses_decodeDragStart : Refuses decodeDragStart ShortText := by
  refine (refuses_withError (by decide) ?_).bind fun ⟨_, _⟩ =>
    refuses_refuseIf_bind (by decide) <| refuses_refuseIf_bind (by decide) <|
    refuses_readDragSurfaceCoordinate.bind fun _ => refuses_expectEnd_bind (by decide) <|
    refuses_refuseIf_bind (by decide) (Refuses.pure _)
  exact refuses_readU64.bind fun _ => refuses_readU64.bind fun _ => refuses_readU64.bind fun _ =>
    refuses_readU64.bind fun _ => refuses_readU32.bind fun _ => refuses_readU16.bind fun _ =>
    refuses_readU16.bind fun _ => Refuses.pure _

theorem refuses_decodeDragPoint (operation : FdclOperation) :
    Refuses (decodeDragPoint operation) ShortText := by
  refine (refuses_withError (by decide) ?_).bind fun ⟨_, _, _⟩ =>
    refuses_refuseIf_bind (by decide) <| refuses_refuseIf_bind (by decide) <|
    refuses_readDragSurfaceCoordinate.bind fun _ => refuses_expectEnd_bind (by decide) <|
    refuses_refuseIf_bind (by decide) <| Refuses.ite (Refuses.pure _) (Refuses.pure _)
  exact refuses_readU64.bind fun _ => refuses_readU16.bind fun _ => refuses_readU16.bind fun _ =>
    Refuses.pure _

theorem refuses_decodeDragCancel : Refuses decodeDragCancel ShortText := by
  refine (refuses_withError (by decide) ?_).bind fun ⟨_, _⟩ =>
    refuses_refuseIf_bind (by decide) <| refuses_refuseIf_bind (by decide) <|
    refuses_expectEnd_bind (by decide) <| refuses_refuseIf_bind (by decide) (Refuses.pure _)
  exact refuses_readU64.bind fun _ => refuses_readU16.bind fun _ => refuses_readU16.bind fun _ =>
    Refuses.pure _

theorem refuses_decodeErrorDetail : Refuses decodeErrorDetail ShortText :=
  (refuses_withError (by decide) refuses_readU16).bind fun _ => refuses_readString.bind fun _ =>
    refuses_expectEnd_bind (by decide) (Refuses.pure _)

theorem refuses_decodeCancel : Refuses decodeCancel ShortText := by
  refine (refuses_withError (by decide) ?_).bind fun ⟨_, _⟩ =>
    refuses_refuseIf_bind (by decide) <| refuses_readString.bind fun _ =>
    refuses_expectEnd_bind (by decide) <| refuses_refuseIf_bind (by decide) (Refuses.pure _)
  exact refuses_readU64.bind fun _ => refuses_readU64.bind fun _ => refuses_readU64.bind fun _ =>
    refuses_readU64.bind fun _ => refuses_readU64.bind fun _ => refuses_readU64.bind fun _ =>
    refuses_readU16.bind fun _ => refuses_readU16.bind fun _ => Refuses.pure _

theorem refuses_readHeader : Refuses readHeader ShortText := by
  refine (refuses_withError (by decide) ?_).bind fun ⟨_, _, _, _, _, _⟩ =>
    refuses_refuseIf_bind (by decide) <| refuses_refuseIf_bind (by decide) <|
    refuses_refuseIf_bind (by decide) <| Refuses.size.bind fun _ =>
    refuses_refuseIf_bind (by decide) (Refuses.pure _)
  exact refuses_readU32.bind fun _ => refuses_readU16.bind fun _ => refuses_readU16.bind fun _ =>
    refuses_readU16.bind fun _ => refuses_readU16.bind fun _ => refuses_readU32.bind fun _ =>
    Refuses.pure _

theorem refuses_decodeBody (operation : FdclOperation) :
    Refuses (decodeBody operation) ShortText :=
  Refuses.ite refuses_decodeCapabilities <| Refuses.ite refuses_decodeFormatList <|
    Refuses.ite refuses_decodeReadRequest <| Refuses.ite refuses_decodeReadResponse <|
    Refuses.ite refuses_decodeErrorDetail <| Refuses.ite refuses_decodeFileRangeRequest <|
    Refuses.ite refuses_decodeFileRangeResponse <|
    Refuses.ite (refuses_decodeFdclObjectLockBody _) <|
    Refuses.ite (refuses_decodeFdclObjectLockBody _) <| Refuses.ite refuses_decodeDragStart <|
    Refuses.ite (refuses_decodeDragPoint _) <| Refuses.ite (refuses_decodeDragPoint _) <|
    Refuses.ite refuses_decodeDragCancel <| Refuses.ite refuses_decodeCancel <|
    Refuses.fail (by decide)

/-- **The error text of a payload is short.** -/
theorem shortText_decodeFdclPayload (payload : ByteBuffer) :
    ShortText (decodeFdclPayload payload).error := by
  unfold decodeFdclPayload
  split
  · decide
  · cases hheader : readHeader.outcome payload with
    | error error => exact refuses_readHeader _ _ _ (outcome_eq_iff.mp hheader)
    | ok header =>
      cases hbody : (decodeBody header.1).outcome (payload.drop headerSize) with
      | error error =>
        simp only [hbody]
        exact refuses_decodeBody _ _ _ _ (outcome_eq_iff.mp hbody)
      | ok decoded =>
        have haccepted := yields_decodeBody _ _ _ _ _ (outcome_eq_iff.mp hbody)
        simp only [hbody]
        rw [haccepted.request.noError]
        exact shortText_empty

/-! ### File lists -/

/-- The error of a file list, with a short text. -/
def ShortAnswer (answer : ResponseStatus × StdString) : Prop := StringLimits answer.2

section FileList

variable {P : ResponseStatus × StdString → Prop}
  (hP : ∀ (status : ResponseStatus) (text : String), status ≠ .ok → ShortText text →
    P (status, bytesOf text))
include hP

theorem refuses_readFileEntry (minor : UInt16) (maxNameBytes : ℕ) :
    Refuses (readFileEntry minor maxNameBytes) P := by
  have hnamed : ∀ {α : Type} {text : String} (r : Reader Unit α), ShortText text →
      Refuses (named (fun _ => (ResponseStatus.protocolError, bytesOf text)) r) P :=
    fun r htext => Refuses.named (P := fun _ => True) (fun _ _ => hP _ _ (by decide) htext)
      fun _ _ _ _ => trivial
  exact (hnamed _ (by decide)).bind fun _ => Refuses.ite
    ((hnamed _ (by decide)).bind fun _ => Refuses.pure _)
    ((Refuses.pure _).bind fun _ => Refuses.pure _)

/-- **The error of a file list is a failure, with a short text.** -/
theorem refuses_readFileList (maxFiles maxNameBytes : ℕ) :
    Refuses (readFileList maxFiles maxNameBytes) P := by
  have hheader : ShortText "FDCL file list header is truncated" := by decide
  refine Refuses.bind ?_ fun _ => (Refuses.refuseIf (hP _ _ (by decide) (by decide))).bind fun _ =>
    (Refuses.refuseIf (hP _ _ (by decide) (by decide))).bind fun _ =>
    ((refuses_readFileEntry hP _ _).times _).bind fun _ =>
    (Refuses.expectEnd (hP _ _ (by decide) (by decide))).bind fun _ => Refuses.pure _
  exact Refuses.named (P := fun _ => True) (fun _ _ => hP _ _ (by decide) hheader)
    fun _ _ _ _ => trivial

end FileList

/-- A list that is not decoded has failed. -/
theorem status_decodeTransferFileList {bytes : ByteBuffer} {maxFiles maxNameBytes : ℕ}
    (h : (decodeTransferFileList bytes maxFiles maxNameBytes).ok = false) :
    (decodeTransferFileList bytes maxFiles maxNameBytes).status ≠ .ok := by
  unfold decodeTransferFileList at h ⊢
  split at h
  next hmagic =>
    rw [if_pos hmagic]
    decide
  next hmagic =>
  rw [if_neg hmagic]
  cases houtcome : (readFileList maxFiles maxNameBytes).outcome bytes with
  | error error =>
    exact refuses_readFileList (P := fun answer => answer.1 ≠ .ok) (fun _ _ hstatus _ => hstatus)
      _ _ _ _ _ (outcome_eq_iff.mp houtcome)
  | ok read =>
    rw [houtcome] at h
    cases h

theorem stringLimits_decodeTransferFileList (bytes : ByteBuffer) (maxFiles maxNameBytes : ℕ) :
    StringLimits (decodeTransferFileList bytes maxFiles maxNameBytes).message := by
  unfold decodeTransferFileList
  split
  · decide
  · cases houtcome : (readFileList maxFiles maxNameBytes).outcome bytes with
    | error error =>
      exact refuses_readFileList (P := ShortAnswer) (fun _ _ _ hshort => hshort) _ _ _ _ _
        (outcome_eq_iff.mp houtcome)
    | ok read =>
      have hempty : StringLimits ([] : StdString) := by decide
      exact hempty

/-- What the policy says against a file list is short. -/
theorem stringLimits_validateFileListPolicy (policy : ClipboardPolicy) (bytes : ByteBuffer) :
    StringLimits (validateFileListPolicy policy bytes).2 := by
  unfold validateFileListPolicy
  split
  · decide
  simp only
  split
  · exact stringLimits_decodeTransferFileList _ _ _
  split
  · decide
  · decide

end Clipboard
end FusionDesk
