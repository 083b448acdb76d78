import FusionDesk.Clipboard.ModuleCalls
import FusionDesk.Clipboard.FdclAccepted

/-!
# Errors that a module makes up

A pending request that is cancelled, expires, loses its channel or cannot be sent ends with a packet
of the module's own.  Such a packet is an error, and no result that is made of it is `Ok`: the
payload, if it has one, is a cancelled error detail or the request itself.

* `operation_of_header`, `status_errorDetail`: what a decoder finds in a payload that is written here.
* `OwnError`: an error that says so; `OwnError.trackedReadResult_ok`: what comes of it.
* `ownError_cancelledPacket`, `ownError_synthetic`, `ownError_failed`: the packets.
-/

namespace FusionDesk
namespace Clipboard

open Protocol Network ByteReader Reader Fdcl
open FusionDesk.Module

/-! ## What a decoder finds -/

/-- **The header that is read has the operation that was written**, whatever the body is. -/
theorem operation_of_header {operation operation' : FdclOperation} {body : ByteBuffer} {next : ℕ}
    (h : readHeader.run (wrap operation body) 0 = some (.ok (operation', next))) :
    operation' = operation := by
  have hgroup : Reads (do
      let magic ← readU32
      let major ← readU16
      let minor ← readU16
      let operation ← readU16
      let flags ← readU16
      let length ← readU32
      return (magic, major, minor, operation, flags, length) : Reader String _)
      (fdclMagic, fdclMajor, fdclMinor, operation.raw, 0, UInt32.ofNat body.length)
      (headerFields operation body).flatten body :=
    (reads_u32 _ _).bind <| (reads_u16 _ _).bind <| (reads_u16 _ _).bind <|
      (reads_u16 _ _).bind <| (reads_u16 _ _).bind <| (reads_u32 _ _).bind <| Reads.pure _ _
  have hnamed := Reads.named (fun error => if error = "" then "FDCL header is truncated" else error)
    hgroup []
  rw [List.nil_append, ← wrap_eq, List.length_nil, Nat.zero_add, length_headerFields] at hnamed
  rw [readHeader, withError, run_bind_of_ok hnamed] at h
  simp only at h
  obtain ⟨_, _, -, h⟩ := exists_of_run_bind h
  obtain ⟨_, _, -, h⟩ := exists_of_run_bind h
  obtain ⟨_, _, -, h⟩ := exists_of_run_bind h
  obtain ⟨_, _, -, h⟩ := exists_of_run_bind h
  obtain ⟨_, _, -, h⟩ := exists_of_run_bind h
  cases h
  rfl

/-- A wrapped body that is accepted is read by the decoder of its operation. -/
theorem run_decodeBody_wrap {operation : FdclOperation} {body : ByteBuffer}
    (h : (decodeFdclPayload (wrap operation body)).ok = true) :
    (decodeBody operation).run body 0 =
      some (.ok (decodeFdclPayload (wrap operation body), body.length)) := by
  obtain ⟨operation', body', -, hbody, hheader, hrun⟩ := decodeFdclPayload_fullyRead h
  obtain rfl := operation_of_header hheader
  have hdrop : (wrap operation' body).drop headerSize = body := by
    rw [wrap_eq, ← length_headerFields operation' body, List.drop_left]
  rw [hdrop] at hbody
  rwa [← hbody] at hrun

/-- **An error detail that is accepted has the status that was written**, whatever its text is. -/
theorem status_errorDetail {detail : FdclErrorDetail}
    (h : (decodeFdclPayload (encodeFdclErrorDetail detail)).ok = true) :
    (decodeFdclPayload (encodeFdclErrorDetail detail)).errorDetail.status = detail.status := by
  rw [encodeFdclErrorDetail_eq] at h ⊢
  have hrun := run_decodeBody_wrap h
  generalize decodeFdclPayload (wrap .errorDetail (errorDetailBytes detail)) = result at hrun
  have hstatus := Reads.named (fun error => if error = "" then "error detail status is truncated"
    else error) (reads_u16 (stringBytes detail.message) detail.status.raw) []
  rw [List.nil_append] at hstatus
  have hyields : ∀ status, Yields (do
      let message ← readString
      expectEnd "error detail has trailing bytes"
      return ({
        ok := true
        operation := .errorDetail
        errorDetail := { status := ⟨status⟩, message := message } } : FdclDecodeResult))
      (fun result => result.errorDetail.status = ⟨status⟩) := fun status =>
    Yields.bind' fun _ => Yields.bind' fun _ => Yields.pure rfl
  have hbody : decodeBody .errorDetail = decodeErrorDetail := rfl
  rw [hbody, decodeErrorDetail, withError] at hrun
  have hlater := (run_bind_of_ok hstatus _).symm.trans hrun
  exact hyields _ _ _ _ _ hlater

/-- The payload is no error detail. -/
def NoErrorDetail (payload : ByteBuffer) : Prop :=
  (decodeFdclPayload payload).ok = true → (decodeFdclPayload payload).operation ≠ .errorDetail

/-- What is wrapped for another operation is none. -/
theorem noErrorDetail_wrap {operation : FdclOperation} {body : ByteBuffer}
    (hother : operation ≠ .errorDetail)
    (hyields : Yields (decodeBody operation) fun result => result.operation = operation) :
    NoErrorDetail (wrap operation body) := by
  intro hok
  rw [hyields _ _ _ _ (run_decodeBody_wrap hok)]
  exact hother

theorem noErrorDetail_readRequest (request : FdclReadFormatRequest) :
    NoErrorDetail (encodeFdclReadFormatRequest request) := by
  rw [encodeFdclReadFormatRequest_eq]
  exact noErrorDetail_wrap (by decide) <| Yields.bind' fun _ => Yields.bind' fun _ =>
    Yields.bind' fun _ => Yields.bind' fun _ => Yields.bind' fun _ => Yields.bind' fun _ =>
      Yields.pure rfl

theorem noErrorDetail_fileRangeRequest (request : FdclFileRangeRequest) :
    NoErrorDetail (encodeFdclFileRangeRequest request) := by
  rw [encodeFdclFileRangeRequest_eq]
  exact noErrorDetail_wrap (by decide) <| Yields.bind' fun ⟨_, _⟩ => Yields.bind' fun _ =>
    Yields.bind' fun _ => Yields.bind' fun _ => Yields.pure rfl

theorem noErrorDetail_objectLock {operation : FdclOperation} (request : FdclObjectLock)
    (h : operation = .lockObject ∨ operation = .unlockObject) :
    NoErrorDetail (encodeObjectLock operation request) := by
  rw [encodeObjectLock_eq]
  have hyields : Yields (decodeFdclObjectLockBody operation)
      fun result => result.operation = operation :=
    Yields.bind' fun ⟨_, _⟩ => Yields.bind' fun _ => Yields.bind' fun _ => Yields.bind' fun _ =>
      Yields.bind' fun _ => Yields.pure rfl
  rcases h with rfl | rfl
  · exact noErrorDetail_wrap (by decide) hyields
  · exact noErrorDetail_wrap (by decide) hyields

/-! ## What comes of an error -/

open ClipboardModule

/-- An error that says that it is one. -/
structure OwnError (packet : PacketEnvelope) : Prop where
  kind : packet.messageKind = .error
  status : (errorDetailOf packet).1 ≠ .ok

theorem OwnError.not_response {packet : PacketEnvelope} (h : OwnError packet) :
    ¬(packet.messageKind = .response ∧ packet.responseStatus = .ok) := by
  rw [h.kind]
  exact fun hresponse => nomatch hresponse.1

/-- **No read ends well with it.** -/
theorem OwnError.trackedReadResult_ok {packet : PacketEnvelope} (h : OwnError packet)
    (policy : ClipboardPolicy) : (trackedReadResult policy packet).ok = false := by
  by_contra hok
  obtain ⟨-, hstatus, -⟩ := passes_of_enforced (eq_true_of_ne_false hok)
  rw [if_neg h.not_response, if_pos h.kind] at hstatus
  exact h.status (eq_of_beq hstatus)

/-- **Nor does the read of a range.** -/
theorem OwnError.trackedFileRangeResult_ok {packet : PacketEnvelope} (h : OwnError packet)
    (policy : ClipboardPolicy) : (trackedFileRangeResult policy packet).ok = false := by
  unfold trackedFileRangeResult
  rw [if_neg h.not_response, if_pos h.kind]
  have hfailed : ((errorDetailOf packet).1 == ResponseStatus.ok) = false :=
    beq_eq_false_iff_ne.mpr h.status
  dsimp only
  split
  · rfl
  · exact hfailed

/-! ## The packets -/

/-- The packet of a cancel. -/
theorem ownError_cancelledPacket (m : ClipboardModule) (cancel : FdclCancel) :
    OwnError (m.cancelledPacket cancel) := by
  refine ⟨rfl, ?_⟩
  unfold errorDetailOf
  dsimp only
  split
  next h =>
    have hstatus := status_errorDetail h.1
    show (decodeFdclPayload (encodeFdclErrorDetail _)).errorDetail.status ≠ .ok
    rw [hstatus]
    exact (by decide : (ResponseStatus.cancelled) ≠ .ok)
  next => exact (by decide : (ResponseStatus.cancelled) ≠ .ok)

/-- The packet that the tracker makes up. -/
theorem ownError_synthetic (pending : PendingRequest ReadHandler) {status : ResponseStatus}
    (h : status ≠ .ok) : OwnError (RequestTracker.makeSyntheticResponse pending status .error) :=
  ⟨rfl, h⟩

/-- The packet for a request that was not sent. -/
theorem ownError_failed {packet : PacketEnvelope} (h : NoErrorDetail packet.payload) :
    OwnError { packet with
      messageKind := .error
      responseStatus := .channelUnavailable
      responseTo := packet.messageId } := by
  refine ⟨rfl, ?_⟩
  unfold errorDetailOf
  dsimp only
  split
  next hdetail => exact absurd hdetail.2 (h hdetail.1)
  next => exact (by decide : (ResponseStatus.channelUnavailable) ≠ .ok)

end Clipboard
end FusionDesk
