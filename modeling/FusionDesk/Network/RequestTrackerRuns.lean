import FusionDesk.General.Runs
import FusionDesk.Network.RequestTracker

/-!
# Runs of the request tracker

A `TrackerHistory` gives every request that is tracked the next serial number and hands this number
to the tracker as its handler, so the calls the tracker makes say which request they are for, also
when an id is used again later.

* `run_accounted`: after every run a tracked request is pending and has had no terminal call, or it
  is not pending and its calls end with the only terminal one.
* `requests_conserved`: that, with what each operation does to the state a run has reached.
-/

namespace FusionDesk
namespace Network

open Protocol RequestTracker

/-- One call; `track` is given a handler or none. -/
inductive TrackerOp
  | track (request : PacketEnvelope) (hasHandler : Bool)
  | complete (response : PacketEnvelope)
  | cancelByChannel (channelId : ChannelId) (channelType : ChannelType) (status : ResponseStatus)
  | expire (nowUsec : UInt64)
  deriving DecidableEq, Repr

/-- Whatever is pending was tracked, under the serial number that is its handler, and waits under
its own id. -/
def PendingTracked (tracker : RequestTracker ℕ) (tracked : List PacketEnvelope) : Prop :=
  ∀ ⦃id : MessageId⦄ ⦃pending : PendingRequest ℕ⦄, tracker.pending[id]? = some pending →
    tracked[pending.handler]? = some pending.request ∧ pending.request.messageId = id ∧
      pending.deadlineUsec = deadlineOf pending.request

/-- A pending request is the one its handler was tracked with. -/
theorem PendingTracked.request_eq {tracker : RequestTracker ℕ} {tracked : List PacketEnvelope}
    (h : PendingTracked tracker tracked) {id : MessageId} {pending : PendingRequest ℕ}
    (hpending : tracker.pending[id]? = some pending) {request : PacketEnvelope}
    (htracked : tracked[pending.handler]? = some request) : pending.request = request :=
  Option.some_inj.mp ((h hpending).1.symm.trans htracked)

theorem PendingTracked.erase {tracker : RequestTracker ℕ} {tracked : List PacketEnvelope}
    (h : PendingTracked tracker tracked) (messageId : MessageId) :
    PendingTracked (tracker.erase messageId) tracked := by
  intro id pending hpending
  rw [pending_erase] at hpending
  by_cases hid : messageId = id
  · rw [if_pos hid] at hpending
    cases hpending
  · rw [if_neg hid] at hpending
    exact h hpending

/-- The tracker with one more request, which is pending under the next serial number. -/
def withRequest (tracker : RequestTracker ℕ) (tracked : List PacketEnvelope)
    (request : PacketEnvelope) : RequestTracker ℕ :=
  { tracker with
    pending := tracker.pending.insert request.messageId
      ⟨request, tracked.length, deadlineOf request⟩ }

theorem pending_withRequest (tracker : RequestTracker ℕ) (tracked : List PacketEnvelope)
    (request : PacketEnvelope) (id : MessageId) :
    (withRequest tracker tracked request).pending[id]? =
      if request.messageId = id then some ⟨request, tracked.length, deadlineOf request⟩
      else tracker.pending[id]? := by
  rw [withRequest, Std.ExtTreeMap.getElem?_insert]
  simp only [Std.LawfulEqOrd.compare_eq_iff_eq]

/-- A request keeps its serial number. -/
theorem getElem?_tracked_append {tracked : List PacketEnvelope} {serial : ℕ}
    {request : PacketEnvelope} (h : tracked[serial]? = some request) (more : List PacketEnvelope) :
    (tracked ++ more)[serial]? = some request := by
  rw [List.getElem?_append_left (List.getElem?_eq_some_iff.mp h).1, h]

/-- A serial number is the one of the latest request, or one given out before. -/
theorem tracked_concat_cases {tracked : List PacketEnvelope} {request r : PacketEnvelope}
    {serial : ℕ} (h : (tracked ++ [request])[serial]? = some r) :
    (serial = tracked.length ∧ request = r) ∨
      (serial < tracked.length ∧ tracked[serial]? = some r) := by
  have hle := (List.getElem?_eq_some_iff.mp h).1
  rw [List.length_append, List.length_singleton] at hle
  rcases Nat.lt_succ_iff_lt_or_eq.mp hle with hlt | rfl
  · rw [List.getElem?_append_left hlt] at h
    exact Or.inr ⟨hlt, h⟩
  · rw [List.getElem?_concat_length, Option.some_inj] at h
    exact Or.inl ⟨rfl, h⟩

theorem PendingTracked.withRequest {tracker : RequestTracker ℕ} {tracked : List PacketEnvelope}
    (h : PendingTracked tracker tracked) (request : PacketEnvelope) :
    PendingTracked (withRequest tracker tracked request) (tracked ++ [request]) := by
  intro id pending hpending
  rw [pending_withRequest] at hpending
  by_cases hid : request.messageId = id
  · rw [if_pos hid, Option.some_inj] at hpending
    rw [← hpending]
    exact ⟨List.getElem?_concat_length, hid, rfl⟩
  · rw [if_neg hid] at hpending
    obtain ⟨htracked, hrest⟩ := h hpending
    exact ⟨getElem?_tracked_append htracked _, hrest⟩

/-- What `track` does to a tracker whose handlers are serial numbers. -/
theorem track_serial (tracker : RequestTracker ℕ) (tracked : List PacketEnvelope)
    (request : PacketEnvelope) (hasHandler : Bool) :
    let result := tracker.track request (if hasHandler then some tracked.length else none)
    (result.1.tracked = false ∧ result.2 = tracker) ∨
      (result.1.tracked = true ∧ tracker.pending[request.messageId]? = none ∧
        result.2 = withRequest tracker tracked request) := by
  intro result
  rcases tracker.track_cases request (if hasHandler then some tracked.length else none) with
    ⟨hrejected, -, hsame⟩ | ⟨handler, hhandler, htrackable, haccepted⟩
  · exact Or.inl ⟨hrejected, hsame⟩
  · have hserial : handler = tracked.length := by
      cases hasHandler with
      | false => cases hhandler
      | true => exact (Option.some_inj.mp hhandler).symm
    refine Or.inr ⟨congrArg (fun r => r.1.tracked) haccepted, htrackable.notPending, ?_⟩
    rw [hserial] at haccepted
    exact congrArg Prod.snd haccepted

/-- The tracker, the tracked requests by serial number and the calls of their handlers. -/
structure TrackerHistory where
  tracker : RequestTracker ℕ := {}
  tracked : List PacketEnvelope := []
  calls : List (HandlerCall ℕ) := []

namespace TrackerHistory

/-- One call, written down. -/
def record (history : TrackerHistory) : TrackerOp → TrackerHistory
  | .track request hasHandler =>
    let result := history.tracker.track request
      (if hasHandler then some history.tracked.length else none)
    { history with
      tracker := result.2
      tracked := if result.1.tracked then history.tracked ++ [request] else history.tracked }
  | .complete response =>
    let result := history.tracker.complete response
    { history with
      tracker := result.2.2
      calls := history.calls ++ result.2.1 }
  | .cancelByChannel channelId channelType status =>
    let result := history.tracker.cancelByChannel channelId channelType status
    { history with
      tracker := result.2.2
      calls := history.calls ++ result.2.1 }
  | .expire nowUsec =>
    let result := history.tracker.expire nowUsec
    { history with
      tracker := result.2.2
      calls := history.calls ++ result.2.1 }

def run (ops : List TrackerOp) : TrackerHistory := Runs.run record {} ops

/-- The responses the handler of one request has been called with. -/
def responsesOf (history : TrackerHistory) (serial : ℕ) : List PacketEnvelope :=
  (history.calls.filter fun call => call.handler == serial).map HandlerCall.response

/-- The request of this serial number waits for a response. -/
def IsPending (history : TrackerHistory) (serial : ℕ) (request : PacketEnvelope) : Prop :=
  history.tracker.pending[request.messageId]? =
    some ⟨request, serial, deadlineOf request⟩

/-- Nothing terminal has come. -/
def Open (responses : List PacketEnvelope) : Prop :=
  ∀ response ∈ responses, ¬ isTerminalResponse response.messageKind

/-- One terminal response has come, and nothing after it. -/
def Closed (responses : List PacketEnvelope) : Prop :=
  ∃ before last, responses = before ++ [last] ∧ Open before ∧ isTerminalResponse last.messageKind

/-- The books of the tracker. -/
structure Accounted (history : TrackerHistory) : Prop where
  pending_tracked : PendingTracked history.tracker history.tracked
  /-- A handler is only called for its own request. -/
  calls_tracked : ∀ call ∈ history.calls, ∃ request, history.tracked[call.handler]? = some request ∧
    call.response.responseTo = request.messageId
  /-- A tracked request is pending with nothing terminal, or not pending and closed. -/
  fate : ∀ {serial : ℕ} {request : PacketEnvelope}, history.tracked[serial]? = some request →
    (history.IsPending serial request ∧ Open (history.responsesOf serial)) ∨
      (¬ history.IsPending serial request ∧ Closed (history.responsesOf serial))

/-- A call adds to the responses of its own request. -/
theorem responsesOf_append (history : TrackerHistory) (tracker : RequestTracker ℕ)
    (call : HandlerCall ℕ) (serial : ℕ) :
    responsesOf { history with tracker := tracker, calls := history.calls ++ [call] } serial =
      history.responsesOf serial ++ if call.handler = serial then [call.response] else [] := by
  unfold responsesOf
  rw [List.filter_append, List.map_append]
  by_cases hcall : call.handler = serial <;> simp [hcall]

theorem Open.append {responses : List PacketEnvelope} (h : Open responses)
    {response : PacketEnvelope} (hresponse : ¬ isTerminalResponse response.messageKind) :
    Open (responses ++ [response]) := by
  intro r hr
  rcases List.mem_append.mp hr with hold | hnew
  · exact h r hold
  · rw [List.mem_singleton.mp hnew]
    exact hresponse

namespace Accounted

variable {history : TrackerHistory}

/-- Whatever is pending is the pending request of its serial number. -/
theorem isPending (h : history.Accounted) {id : MessageId} {pending : PendingRequest ℕ}
    (hpending : history.tracker.pending[id]? = some pending) {request : PacketEnvelope}
    (htracked : history.tracked[pending.handler]? = some request) :
    history.IsPending pending.handler request := by
  obtain ⟨-, hid, hdeadline⟩ := h.pending_tracked hpending
  rw [← h.pending_tracked.request_eq hpending htracked, IsPending, hid, hpending, ← hdeadline]

/-- The books on the calls, after one more. -/
theorem calls_tracked_append (h : history.Accounted) {pending : PendingRequest ℕ}
    {response : PacketEnvelope}
    (hpending : history.tracker.pending[response.responseTo]? = some pending) :
    ∀ call ∈ history.calls ++ [⟨pending.handler, response⟩],
      ∃ request, history.tracked[call.handler]? = some request ∧
        call.response.responseTo = request.messageId := by
  intro call hcall
  rcases List.mem_append.mp hcall with hold | hnew
  · exact h.calls_tracked call hold
  · obtain ⟨htracked, hid, -⟩ := h.pending_tracked hpending
    rw [List.mem_singleton.mp hnew]
    exact ⟨pending.request, htracked, hid.symm⟩

/-- Two requests of one id are not pending together. -/
theorem serial_eq {id : MessageId} {pending : PendingRequest ℕ}
    (hpending : history.tracker.pending[id]? = some pending) {serial : ℕ}
    {request : PacketEnvelope} (hid : request.messageId = id)
    (hserial : history.IsPending serial request) : serial = pending.handler := by
  rw [IsPending, hid, hpending, Option.some_inj] at hserial
  rw [hserial]

/-- A response that is not terminal leaves the request pending. -/
theorem call (h : history.Accounted) {pending : PendingRequest ℕ} {response : PacketEnvelope}
    (hpending : history.tracker.pending[response.responseTo]? = some pending)
    (hresponse : ¬ isTerminalResponse response.messageKind) :
    Accounted { history with calls := history.calls ++ [⟨pending.handler, response⟩] } where
  pending_tracked := h.pending_tracked
  calls_tracked := h.calls_tracked_append hpending
  fate := by
    intro serial request htracked
    rw [responsesOf_append history history.tracker]
    by_cases hserial : pending.handler = serial
    · subst hserial
      have hisPending := h.isPending hpending htracked
      rw [if_pos rfl]
      rcases h.fate htracked with ⟨-, hopen⟩ | ⟨hnot, -⟩
      · exact Or.inl ⟨hisPending, hopen.append hresponse⟩
      · exact absurd hisPending hnot
    · rw [if_neg hserial, List.append_nil]
      exact h.fate htracked

/-- A terminal response ends the request. -/
theorem finish (h : history.Accounted) {pending : PendingRequest ℕ} {response : PacketEnvelope}
    (hpending : history.tracker.pending[response.responseTo]? = some pending)
    (hresponse : isTerminalResponse response.messageKind) :
    Accounted { history with
      tracker := history.tracker.erase response.responseTo
      calls := history.calls ++ [⟨pending.handler, response⟩] } where
  pending_tracked := h.pending_tracked.erase _
  calls_tracked := h.calls_tracked_append hpending
  fate := by
    intro serial request htracked
    rw [responsesOf_append]
    simp only [IsPending, pending_erase]
    by_cases hserial : pending.handler = serial
    · subst hserial
      have hisPending := h.isPending hpending htracked
      have hid : response.responseTo = request.messageId := by
        rw [← h.pending_tracked.request_eq hpending htracked]
        exact (h.pending_tracked hpending).2.1.symm
      rw [if_pos rfl, if_pos hid]
      refine Or.inr ⟨by simp, history.responsesOf pending.handler, response, rfl, ?_, hresponse⟩
      rcases h.fate htracked with ⟨-, hopen⟩ | ⟨hnot, -⟩
      · exact hopen
      · exact absurd hisPending hnot
    · rw [if_neg hserial, List.append_nil]
      by_cases hsame : response.responseTo = request.messageId
      · -- another request waits under this id, so this one does not
        rw [if_pos hsame]
        rcases h.fate htracked with ⟨hpending', -⟩ | ⟨-, hclosed⟩
        · exact absurd (serial_eq hpending hsame.symm hpending').symm hserial
        · exact Or.inr ⟨by simp, hclosed⟩
      · rw [if_neg hsame]
        exact h.fate htracked

/-- So does a synthetic one, for every request of a list. -/
theorem endAll (h : history.Accounted) (status : ResponseStatus) (ids : List MessageId) :
    Accounted { history with
      tracker := (history.tracker.endAll status ids).2
      calls := history.calls ++ (history.tracker.endAll status ids).1 } := by
  induction ids generalizing history with
  | nil => simpa [RequestTracker.endAll] using h
  | cons id rest ih =>
    cases hpending : history.tracker.pending[id]? with
    | none => simpa only [RequestTracker.endAll, hpending] using ih h
    | some pending =>
      have hid := (h.pending_tracked hpending).2.1
      have hfound : history.tracker.pending[
          (makeSyntheticResponse pending status .error).responseTo]? = some pending := by
        rw [← hpending, ← hid]
        rfl
      have hstep := h.finish hfound rfl
      have hrest := ih hstep
      simpa only [RequestTracker.endAll, hpending, List.append_assoc, List.singleton_append,
        makeSyntheticResponse, hid] using hrest

/-- A new request waits under the next serial number, and no handler is called. -/
theorem insert (h : history.Accounted) (request : PacketEnvelope)
    (hnone : history.tracker.pending[request.messageId]? = none) :
    Accounted { history with
      tracker := withRequest history.tracker history.tracked request
      tracked := history.tracked ++ [request] } where
  pending_tracked := h.pending_tracked.withRequest request
  calls_tracked := by
    intro call hcall
    obtain ⟨r, hr, hto⟩ := h.calls_tracked call hcall
    exact ⟨r, getElem?_tracked_append hr _, hto⟩
  fate := by
    intro serial r htracked
    unfold IsPending
    simp only [pending_withRequest]
    rcases tracked_concat_cases htracked with ⟨rfl, rfl⟩ | ⟨hlt, htracked⟩
    · have hnothing : history.responsesOf history.tracked.length = [] := by
        rw [responsesOf, List.map_eq_nil_iff, List.filter_eq_nil_iff]
        intro call hcall heq
        obtain ⟨r', hr', -⟩ := h.calls_tracked call hcall
        have hlt := (List.getElem?_eq_some_iff.mp hr').1
        rw [eq_of_beq heq] at hlt
        exact Nat.lt_irrefl _ hlt
      refine Or.inl ⟨by rw [if_pos rfl], ?_⟩
      show Open (history.responsesOf history.tracked.length)
      rw [hnothing]
      exact fun _ hmem => absurd hmem List.not_mem_nil
    · by_cases hid : request.messageId = r.messageId
      · -- the id was free, so the older request is closed
        rw [if_pos hid]
        rcases h.fate htracked with ⟨hpending, -⟩ | ⟨-, hclosed⟩
        · rw [IsPending, ← hid, hnone] at hpending
          cases hpending
        · refine Or.inr ⟨fun heq => Nat.ne_of_lt hlt ?_, hclosed⟩
          exact (congrArg PendingRequest.handler (Option.some_inj.mp heq)).symm
      · rw [if_neg hid]
        exact h.fate htracked

theorem record (h : history.Accounted) (op : TrackerOp) : (history.record op).Accounted := by
  cases op with
  | track request hasHandler =>
    simp only [TrackerHistory.record]
    rcases track_serial history.tracker history.tracked request hasHandler with
      ⟨hrejected, hsame⟩ | ⟨haccepted, hnone, hafter⟩
    · simpa only [hrejected, hsame, Bool.false_eq_true, if_false] using h
    · simpa only [haccepted, hafter, if_true] using h.insert request hnone
  | complete response =>
    unfold TrackerHistory.record
    rcases history.tracker.complete_cases response with ⟨hnone, -⟩ | ⟨pending, hpending, hcalled⟩
    · simpa only [hnone, List.append_nil] using h
    · by_cases hterminal : isTerminalResponse response.messageKind
      · simpa only [hcalled, if_pos hterminal] using h.finish hpending hterminal
      · simpa only [hcalled, if_neg hterminal] using h.call hpending hterminal
  | cancelByChannel channelId channelType status => exact h.endAll status _
  | expire nowUsec => exact h.endAll .timeout _

end Accounted

/-- **The books of the tracker balance after every run.** -/
theorem run_accounted (ops : List TrackerOp) : (run ops).Accounted := by
  refine Runs.run_invariant ⟨fun id pending hpending => ?_, fun call hcall => ?_,
    fun htracked => ?_⟩ (fun history op h => h.record op) ops
  · simp at hpending
  · cases hcall
  · simp at htracked

/-- What `cancelByChannel` and `expire` do: they end the requests that meet the condition and no
others, call the handler of each of them once with a synthetic error, and return their number. -/
def EndsExactly (tracker : RequestTracker ℕ) (ends : PendingRequest ℕ → Bool)
    (status : ResponseStatus) (result : ℕ × List (HandlerCall ℕ) × RequestTracker ℕ) : Prop :=
  (∀ id : MessageId, result.2.2.pending[id]? =
    tracker.pending[id]?.filter fun pending => !ends pending) ∧
  (∃ ids : List MessageId, ids.Nodup ∧
    (∀ id, id ∈ ids ↔ ∃ pending, tracker.pending[id]? = some pending ∧ ends pending) ∧
    result.2.1 = ids.filterMap fun id => tracker.pending[id]?.map (endCall status)) ∧
  result.1 = result.2.1.length

theorem endsExactly_sweep (tracker : RequestTracker ℕ) (ends : PendingRequest ℕ → Bool)
    (status : ResponseStatus) : EndsExactly tracker ends status (tracker.sweep ends status) :=
  ⟨tracker.pending_sweep ends status,
    ⟨tracker.collect ends, tracker.nodup_collect ends, fun _ => tracker.mem_collect,
      tracker.calls_sweep ends status⟩, tracker.count_sweep ends status⟩

/-- **Conservation of requests.**  After every run the books balance; and in the state it has
reached, a response that is not terminal leaves the tracker as it is, `cancelByChannel` and `expire`
end exactly the requests of the channel and those whose deadline has come, and a request that is not
trackable is rejected and changes nothing. -/
theorem requests_conserved (ops : List TrackerOp) :
    (run ops).Accounted ∧
    (∀ response, ¬ isTerminalResponse response.messageKind →
      ((run ops).tracker.complete response).2.2 = (run ops).tracker) ∧
    (∀ channelId channelType status,
      EndsExactly (run ops).tracker (onChannel channelId channelType) status
        ((run ops).tracker.cancelByChannel channelId channelType status)) ∧
    (∀ nowUsec, EndsExactly (run ops).tracker (expired nowUsec) .timeout
      ((run ops).tracker.expire nowUsec)) ∧
    ∀ request handler,
      (((run ops).tracker.track request handler).1.tracked ↔
        (run ops).tracker.Trackable request handler) ∧
      (¬ (run ops).tracker.Trackable request handler →
        ((run ops).tracker.track request handler).2 = (run ops).tracker) := by
  refine ⟨run_accounted ops, fun response hresponse => ?_, fun channelId channelType status => ?_,
    fun nowUsec => ?_, fun request handler => ?_⟩
  · rcases (run ops).tracker.complete_cases response with ⟨hnone, -⟩ | ⟨pending, -, hcalled⟩
    · rw [hnone]
    · rw [hcalled, if_neg hresponse]
  · exact endsExactly_sweep _ _ _
  · exact endsExactly_sweep _ _ _
  · rcases (run ops).tracker.track_cases request handler with
      ⟨hrejected, hnot, hsame⟩ | ⟨h, -, htrackable, haccepted⟩
    · rw [hrejected]
      exact ⟨iff_of_false (by simp) hnot, fun _ => hsame⟩
    · rw [haccepted]
      exact ⟨iff_of_true rfl htrackable, fun hnot => absurd htrackable hnot⟩

end TrackerHistory
end Network
end FusionDesk
