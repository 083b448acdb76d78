import FusionDesk.General.Runs
import FusionDesk.Runtime.ControlServices

/-!
# Whose response is it

Does a response reach only the service that has asked?  Each service counts its message ids for
itself, from 1, and both are called with every response on the control route: a response whose id is
waited for by the other one too goes to both.

* `Change`, `step_change`: what a step does to what the services wait for.
* `Tracked`: what is waited for is the latest request under its id.
* `ownResponses_iff`: exactly when every response goes to its own request alone.
* `teardown_response_completes_profile`: the first requests of the two services have the same id.
-/

namespace FusionDesk
namespace Runtime
namespace ControlServices

open Protocol Network PeerProfile

/-! ## Vocabulary -/

/-- What a service waits for under an id. -/
def waiting (s : ControlServices) : ControlService → MessageId → Option (PendingRequest Unit)
  | .peerProfile => s.peerProfile.tracker.waiting
  | .teardown => s.teardown.tracker.waiting

/-- The request that a service is sending. -/
def sending (s : ControlServices) : ControlService → Option PacketEnvelope
  | .peerProfile => s.peerProfile.sending
  | .teardown => sendingOf s.teardown.dispatching

/-- Nothing of the service has changed. -/
def Same (before after : ControlServices) : ControlService → Prop
  | .peerProfile => after.peerProfile = before.peerProfile
  | .teardown => after.teardown = before.teardown

/-- No later request of the service has the id. -/
def Latest (requests : List (ControlService × PacketEnvelope)) (serial : ℕ)
    (service : ControlService) (id : MessageId) : Prop :=
  ∀ request ∈ requests.drop (serial + 1), request.1 = service → request.2.messageId ≠ id

/-- A request is over for a reason of its own. -/
inductive Over (s : ControlServices) (service : ControlService) (pending : PendingRequest Unit) :
    ControlOp → Prop
  | expired {nowUsec : UInt64} (deadline : pending.deadlineUsec ≤ nowUsec) :
    Over s service pending (.expire service nowUsec)
  | stopped : Over s service pending (.stop service)
  | failed {sent : SendResult} (status : sent.status ≠ .sent)
      (sending : s.sending service = some pending.request) :
    Over s service pending (.sendReturned service sent)
  | answered {serial : ℕ} {response : PacketEnvelope}
      (request : s.requests[serial]? = some (service, pending.request))
      (latest : Latest s.requests serial service pending.request.messageId) :
    Over s service pending (.arrive serial response)

/-- The response of a step goes to its own request alone, and no request is over for another
reason. -/
structure OwnResponses (s : ControlServices) (op : ControlOp) : Prop where
  others : ∀ serial response request, op = .arrive serial response →
    s.requests[serial]? = some request → ∀ other, other ≠ request.1 → Same s (s.step op) other
  ended : ∀ service id pending, s.waiting service id = some pending →
    (s.step op).waiting service id ≠ some pending → Over s service pending op

/-- The response to a request finds no request of the other service under its id, and if it ends
something, then no later request of its own service has the id. -/
structure FindsOwn (s : ControlServices) (serial : ℕ) (response : PacketEnvelope)
    (request : ControlService × PacketEnvelope) : Prop where
  others : ∀ other ∈ s.router.submitIncoming (respond request.2 response), other ≠ request.1 →
    s.waiting other request.2.messageId = none
  latest : request.1 ∈ s.router.submitIncoming (respond request.2 response) →
    RequestTracker.isTerminalResponse response.messageKind = true →
    s.waiting request.1 request.2.messageId ≠ none →
    Latest s.requests serial request.1 request.2.messageId

/-- What arrives is no response, or it finds its own request. -/
def Apart (s : ControlServices) : ControlOp → Prop
  | .arrive serial response => ∀ request, s.requests[serial]? = some request →
      responseMessageKind response.messageKind = true → FindsOwn s serial response request
  | _ => True

/-! ## A response and the services that are called with it -/

section

variable {s after : ControlServices} {service other : ControlService} {packet : PacketEnvelope}

theorem Same.refl (s : ControlServices) : ∀ service, Same s s service
  | .peerProfile => rfl
  | .teardown => rfl

theorem Same.trans {middle : ControlServices} (h : Same s middle service)
    (h' : Same middle after service) : Same s after service := by
  cases service with
  | peerProfile => exact Eq.trans h' h
  | teardown => exact Eq.trans h' h

theorem Same.waiting_eq (h : Same s after service) (id : MessageId) :
    after.waiting service id = s.waiting service id := by
  cases service with
  | peerProfile => exact congrArg (fun p => p.tracker.waiting id) h
  | teardown => exact congrArg (fun t => t.tracker.waiting id) h

/-- How many responses a service has recorded. -/
def heard (s : ControlServices) : ControlService → ℕ
  | .peerProfile => s.peerProfile.heard
  | .teardown => s.teardown.received.length

theorem Same.heard_eq (h : Same s after service) : after.heard service = s.heard service := by
  cases service with
  | peerProfile => exact congrArg PeerProfileRuntimeService.heard h
  | teardown => exact congrArg (fun t => t.received.length) h

theorem same_complete_of_ne (s : ControlServices) (packet : PacketEnvelope)
    (hne : service ≠ other) : Same s (complete packet s service) other := by
  cases service with
  | peerProfile =>
    cases other with
    | peerProfile => exact absurd rfl hne
    | teardown => exact rfl
  | teardown =>
    cases other with
    | peerProfile => exact rfl
    | teardown => exact absurd rfl hne

theorem same_complete_of_waiting (h : s.waiting service packet.responseTo = none) :
    Same s (complete packet s service) service := by
  cases service with
  | peerProfile => exact s.peerProfile.complete_of_waiting_eq_none h
  | teardown => exact s.teardown.complete_of_waiting_eq_none h

theorem sending_complete (s : ControlServices) (packet : PacketEnvelope)
    (service other : ControlService) :
    (complete packet s service).sending other = s.sending other := by
  cases service with
  | peerProfile =>
    cases other with
    | peerProfile => exact s.peerProfile.sending_complete packet
    | teardown => rfl
  | teardown =>
    cases other with
    | peerProfile => rfl
    | teardown => exact congrArg sendingOf (s.teardown.dispatching_complete packet)

/-- The packet ends what is waited for under the id. -/
def EndsId (packet : PacketEnvelope) (id : MessageId) : Prop :=
  RequestTracker.isTerminalResponse packet.messageKind ∧ packet.responseTo ≠ 0 ∧
    packet.responseTo = id

instance (packet : PacketEnvelope) (id : MessageId) : Decidable (EndsId packet id) :=
  inferInstanceAs (Decidable (_ ∧ _ ∧ _))

theorem waiting_complete (s : ControlServices) (packet : PacketEnvelope)
    (service other : ControlService) (id : MessageId) :
    (complete packet s service).waiting other id =
      if other = service ∧ EndsId packet id then none else s.waiting other id := by
  by_cases hother : other = service
  · subst hother
    simp only [true_and]
    cases other with
    | peerProfile => exact s.peerProfile.waiting_complete packet id
    | teardown => exact s.teardown.waiting_complete packet id
  · rw [if_neg fun h => hother h.1]
    exact (same_complete_of_ne s packet (Ne.symm hother)).waiting_eq id

theorem heard_le_complete (s : ControlServices) (packet : PacketEnvelope)
    (service other : ControlService) : s.heard other ≤ (complete packet s service).heard other := by
  by_cases hother : service = other
  · subst hother
    cases service with
    | peerProfile => exact s.peerProfile.heard_le_complete packet
    | teardown => exact s.teardown.received_le_complete packet
  · exact (same_complete_of_ne s packet hother).heard_eq.ge

theorem heard_lt_complete (hkind : responseMessageKind packet.messageKind = true)
    (hzero : packet.responseTo ≠ 0) (h : s.waiting service packet.responseTo ≠ none) :
    s.heard service < (complete packet s service).heard service := by
  cases service with
  | peerProfile => exact s.peerProfile.heard_lt_complete hkind hzero h
  | teardown => exact s.teardown.received_lt_complete hkind hzero h

/-! ### All that are called -/

variable {called : List ControlService}

theorem requests_fold (s : ControlServices) (packet : PacketEnvelope)
    (called : List ControlService) :
    (called.foldl (complete packet) s).requests = s.requests := by
  refine List.foldlRecOn (motive := fun after : ControlServices => after.requests = s.requests)
    called _ rfl fun after hafter service _ => ?_
  cases service with
  | peerProfile => exact hafter
  | teardown => exact hafter

theorem sending_fold (s : ControlServices) (packet : PacketEnvelope)
    (called : List ControlService) (other : ControlService) :
    (called.foldl (complete packet) s).sending other = s.sending other :=
  List.foldlRecOn (motive := fun after : ControlServices => after.sending other = s.sending other)
    called _ rfl fun after hafter service _ =>
      (sending_complete after packet service other).trans hafter

/-- **What a packet ends is ended in every service that is called with it.** -/
theorem waiting_fold (packet : PacketEnvelope) (other : ControlService) (id : MessageId) :
    ∀ s : ControlServices, (called.foldl (complete packet) s).waiting other id =
      if other ∈ called ∧ EndsId packet id then none else s.waiting other id := by
  induction called with
  | nil => exact fun s => (if_neg fun h => List.not_mem_nil h.1).symm
  | cons service called ih =>
    intro s
    rw [List.foldl_cons, ih, waiting_complete]
    simp only [List.mem_cons]
    by_cases hends : EndsId packet id
    · by_cases hcalled : other ∈ called
      · rw [if_pos ⟨hcalled, hends⟩, if_pos ⟨Or.inr hcalled, hends⟩]
      · rw [if_neg fun h => hcalled h.1]
        simp only [hcalled, or_false]
    · rw [if_neg fun h => hends h.2, if_neg fun h => hends h.2, if_neg fun h => hends h.2]

/-- **A packet does nothing to a service that is not called, or waits for nothing under its id.** -/
theorem same_fold (h : other ∈ called → s.waiting other packet.responseTo = none) :
    Same s (called.foldl (complete packet) s) other := by
  refine List.foldlRecOn (motive := fun after => Same s after other) called _ (Same.refl s other)
    fun after hafter service hservice => hafter.trans ?_
  by_cases hne : service = other
  · subst hne
    exact same_complete_of_waiting ((hafter.waiting_eq _).trans (h hservice))
  · exact same_complete_of_ne after packet hne

/-- **It is recorded by a service that is called and waits for its id.** -/
theorem heard_lt_fold (hkind : responseMessageKind packet.messageKind = true)
    (hzero : packet.responseTo ≠ 0) (hcalled : other ∈ called)
    (h : s.waiting other packet.responseTo ≠ none) :
    s.heard other < (called.foldl (complete packet) s).heard other := by
  obtain ⟨front, back, rfl, hfront⟩ := List.eq_append_cons_of_mem hcalled
  rw [List.foldl_append, List.foldl_cons]
  have hsame : Same s (front.foldl (complete packet) s) other :=
    same_fold fun hmem => absurd hmem hfront
  calc s.heard other = (front.foldl (complete packet) s).heard other := hsame.heard_eq.symm
    _ < (complete packet (front.foldl (complete packet) s) other).heard other := by
      refine heard_lt_complete hkind hzero ?_
      rwa [hsame.waiting_eq]
    _ ≤ _ := List.foldlRecOn (motive := fun after : ControlServices =>
        (complete packet (front.foldl (complete packet) s) other).heard other ≤ after.heard other)
        back _ le_rfl fun after hafter service _ =>
          hafter.trans (heard_le_complete after packet service other)

end

/-! ## What a step does -/

/-- A service has stopped waiting for what it has waited for under the id. -/
inductive Ended (s : ControlServices) (service : ControlService) (id : MessageId)
    (pending : PendingRequest Unit) : ControlOp → Prop
  | expired {nowUsec : UInt64} (deadline : pending.deadlineUsec ≤ nowUsec) :
    Ended s service id pending (.expire service nowUsec)
  | stopped : Ended s service id pending (.stop service)
  | failed {sent : SendResult} (status : sent.status ≠ .sent) {packet : PacketEnvelope}
      (sending : s.sending service = some packet) (messageId : packet.messageId = id) :
    Ended s service id pending (.sendReturned service sent)
  | answered {serial : ℕ} {response : PacketEnvelope} {request : ControlService × PacketEnvelope}
      (handed : s.requests[serial]? = some request)
      (called : service ∈ s.router.submitIncoming (respond request.2 response))
      (ends : EndsId (respond request.2 response) id) :
    Ended s service id pending (.arrive serial response)

/-- A step makes a request, or ends some. -/
inductive Change (s : ControlServices) (op : ControlOp) (after : ControlServices) : Prop
  | requested (service : ControlService) (packet : PacketEnvelope)
      (idle : s.sending service = none) (messageId : packet.messageId ≠ 0)
      (new : s.waiting service packet.messageId = none)
      (requests : after.requests = s.requests ++ [(service, packet)])
      (sending : ∀ other,
        after.sending other = if other = service then some packet else s.sending other)
      (waiting : ∀ other id, after.waiting other id =
        if other = service ∧ packet.messageId = id then
          some ⟨packet, (), RequestTracker.deadlineOf packet⟩
        else s.waiting other id)
  | ended (requests : after.requests = s.requests)
      (sending : ∀ service,
        after.sending service = s.sending service ∨ after.sending service = none)
      (waiting : ∀ service id, after.waiting service id = s.waiting service id ∨
        (after.waiting service id = none ∧
          ∀ pending, s.waiting service id = some pending → Ended s service id pending op))

section

variable {s after : ControlServices} {op : ControlOp}

/-- Nothing is waited for that was not, and nothing ends. -/
theorem Change.quiet (requests : after.requests = s.requests)
    (sending : ∀ service, after.sending service = s.sending service)
    (waiting : ∀ service, after.waiting service = s.waiting service) : Change s op after :=
  .ended requests (fun service => Or.inl (sending service)) fun service id =>
    Or.inl (congrFun (waiting service) id)

/-- A step of the peer profile service alone. -/
theorem Change.peerProfile {P : MessageId → PendingRequest Unit → Prop}
    (requests : after.requests = s.requests) (teardown : after.teardown = s.teardown)
    (sending : after.peerProfile.sending = s.peerProfile.sending ∨
      after.peerProfile.sending = none)
    (ends : RequestTracker.EndsOnly s.peerProfile.tracker after.peerProfile.tracker P)
    (reason : ∀ id pending, P id pending → Ended s .peerProfile id pending op) :
    Change s op after := by
  refine .ended requests (fun service => ?_) fun service id => ?_
  · cases service with
    | peerProfile => exact sending
    | teardown =>
      exact Or.inl (congrArg (fun t : ReconnectTeardownService => sendingOf t.dispatching) teardown)
  · cases service with
    | peerProfile => exact ends.imp reason id
    | teardown =>
      exact Or.inl (congrArg (fun t : ReconnectTeardownService => t.tracker.waiting id) teardown)

/-- A step of the teardown service alone. -/
theorem Change.teardown {P : MessageId → PendingRequest Unit → Prop}
    (requests : after.requests = s.requests) (peerProfile : after.peerProfile = s.peerProfile)
    (sending : sendingOf after.teardown.dispatching = sendingOf s.teardown.dispatching ∨
      sendingOf after.teardown.dispatching = none)
    (ends : RequestTracker.EndsOnly s.teardown.tracker after.teardown.tracker P)
    (reason : ∀ id pending, P id pending → Ended s .teardown id pending op) :
    Change s op after := by
  refine .ended requests (fun service => ?_) fun service id => ?_
  · cases service with
    | peerProfile => exact Or.inl (congrArg PeerProfileRuntimeService.sending peerProfile)
    | teardown => exact sending
  · cases service with
    | peerProfile =>
      exact Or.inl
        (congrArg (fun p : PeerProfileRuntimeService => p.tracker.waiting id) peerProfile)
    | teardown => exact ends.imp reason id

theorem startPeerProfile_change (options : PeerProfileRuntimeServiceStartOptions)
    (responder : PeerProfileServiceStartResult) : Change s op (s.startPeerProfile options responder) := by
  have hkept : (s.startPeerProfile options responder).requests = s.requests ∧
      (s.startPeerProfile options responder).teardown = s.teardown ∧
      (s.startPeerProfile options responder).peerProfile.sending = s.peerProfile.sending ∧
      (s.startPeerProfile options responder).peerProfile.tracker = s.peerProfile.tracker := by
    unfold startPeerProfile
    split
    · exact ⟨rfl, rfl, rfl, rfl⟩
    · split
      · exact ⟨rfl, rfl, rfl, rfl⟩
      · dsimp only
        split
        · exact ⟨rfl, rfl, rfl, rfl⟩
        · exact ⟨rfl, rfl, rfl, rfl⟩
  obtain ⟨hrequests, hteardown, hsending, htracker⟩ := hkept
  refine .peerProfile (P := fun _ _ => False) hrequests hteardown (Or.inl hsending) ?_
    fun _ _ => False.elim
  rw [htracker]
  exact .refl _ _

theorem startTeardown_change (options : ReconnectTeardownServiceOptions) (handlerOk : Bool) :
    Change s op (s.startTeardown options handlerOk) := by
  have hkept : (s.startTeardown options handlerOk).requests = s.requests ∧
      (s.startTeardown options handlerOk).peerProfile = s.peerProfile ∧
      (s.startTeardown options handlerOk).teardown.dispatching = s.teardown.dispatching ∧
      (s.startTeardown options handlerOk).teardown.tracker = s.teardown.tracker := by
    unfold startTeardown
    split
    · exact ⟨rfl, rfl, rfl, rfl⟩
    · split
      · exact ⟨rfl, rfl, rfl, rfl⟩
      · dsimp only
        split
        · exact ⟨rfl, rfl, rfl, rfl⟩
        · exact ⟨rfl, rfl, rfl, rfl⟩
  obtain ⟨hrequests, hpeerProfile, hdispatching, htracker⟩ := hkept
  refine .teardown (P := fun _ _ => False) hrequests hpeerProfile
    (Or.inl (congrArg sendingOf hdispatching)) ?_ fun _ _ => False.elim
  rw [htracker]
  exact .refl _ _

theorem stop_change (service : ControlService) : Change s (.stop service) (s.stop service) := by
  cases service with
  | peerProfile =>
    exact .peerProfile rfl rfl (Or.inl s.peerProfile.sending_stopped) s.peerProfile.endsOnly_stopped
      fun _ _ _ => .stopped
  | teardown =>
    exact .teardown (P := fun _ _ => False) rfl rfl (Or.inl rfl) (.refl _ _) fun _ _ => False.elim

theorem expire_change (service : ControlService) (nowUsec : UInt64) :
    Change s (.expire service nowUsec) (s.expire nowUsec service) := by
  cases service with
  | peerProfile =>
    exact .peerProfile rfl rfl (Or.inl (s.peerProfile.sending_expire nowUsec))
      (s.peerProfile.endsOnly_expire nowUsec) fun _ _ hdeadline => .expired hdeadline
  | teardown =>
    exact .teardown rfl rfl (Or.inl (congrArg sendingOf (s.teardown.dispatching_expire nowUsec)))
      (s.teardown.endsOnly_expire nowUsec) fun _ _ hdeadline => .expired hdeadline

theorem sendReturned_change (service : ControlService) (sent : SendResult) :
    Change s (.sendReturned service sent) (s.sendReturned sent service) := by
  cases service with
  | peerProfile =>
    refine .peerProfile rfl rfl (Or.inr (s.peerProfile.sending_sendReturned sent))
      (s.peerProfile.endsOnly_sendReturned sent) ?_
    rintro id pending ⟨hstatus, packet, hsending, hid⟩
    exact .failed hstatus hsending hid
  | teardown =>
    refine .teardown rfl rfl (Or.inr (s.teardown.sendReturned_ends sent).1)
      (s.teardown.sendReturned_ends sent).2 ?_
    rintro id pending ⟨hstatus, packet, hsending, hid⟩
    exact .failed hstatus hsending hid

/-- A response is passed to everyone the router calls. -/
theorem arrive_change (serial : ℕ) (response : PacketEnvelope) :
    Change s (.arrive serial response) (s.arrive serial response) := by
  unfold arrive
  split
  · exact .quiet rfl (fun _ => rfl) fun _ => rfl
  next request hrequest =>
    refine .ended (requests_fold s _ _) (fun service => Or.inl (sending_fold s _ _ service))
      fun service id => ?_
    rw [deliver, waiting_fold]
    split
    next hends => exact Or.inr ⟨rfl, fun _ _ => .answered hrequest hends.1 hends.2⟩
    · exact Or.inl rfl

theorem requestPeerProfile_change (request : PeerProfileExchangeRequest)
    (options : PeerProfileRuntimeExchangeOptions) :
    Change s op (s.requestPeerProfile request options) := by
  unfold requestPeerProfile
  split
  · exact .quiet rfl (fun _ => rfl) fun _ => rfl
  next hidle =>
    rw [Bool.not_eq_true, Option.isSome_eq_false_iff, Option.isNone_iff_eq_none] at hidle
    rcases s.peerProfile.requestPeerProfile_cases hidle request options with
      ⟨htracker, hsending⟩ | ⟨packet, htracked, hsending⟩
    · refine .peerProfile (P := fun _ _ => False) ?_ rfl (Or.inr hsending) ?_ fun _ _ => False.elim
      · show s.requests ++ _ = s.requests
        rw [hsending]
        exact List.append_nil _
      · show RequestTracker.EndsOnly s.peerProfile.tracker
          (s.peerProfile.requestPeerProfile request options).tracker _
        rw [htracker]
        exact .refl _ _
    · refine .requested .peerProfile packet hidle htracked.messageId htracked.new ?_ ?_ ?_
      · show s.requests ++ _ = s.requests ++ _
        rw [hsending]
        rfl
      · rintro (_ | _)
        · exact hsending
        · rfl
      · rintro (_ | _) id
        · refine (htracked.waiting id).trans ?_
          simp only [true_and]
          rfl
        · exact (if_neg fun h => ControlService.noConfusion h.1).symm

theorem sendNext_change : Change s op s.sendNext := by
  unfold sendNext
  split
  · exact .quiet rfl (fun _ => rfl) fun _ => rfl
  next hidle =>
    rw [Bool.not_eq_true, Option.isSome_eq_false_iff, Option.isNone_iff_eq_none] at hidle
    rcases s.teardown.sendNext_cases hidle with
      ⟨htracker, hsending⟩ | ⟨packet, htracked, hsending⟩
    · refine .teardown (P := fun _ _ => False) ?_ rfl (Or.inr hsending) ?_ fun _ _ => False.elim
      · show s.requests ++ _ = s.requests
        rw [hsending]
        exact List.append_nil _
      · show RequestTracker.EndsOnly s.teardown.tracker s.teardown.sendNext.tracker _
        rw [htracker]
        exact .refl _ _
    · refine .requested .teardown packet hidle htracked.messageId htracked.new ?_ ?_ ?_
      · show s.requests ++ _ = s.requests ++ _
        rw [hsending]
        rfl
      · rintro (_ | _)
        · rfl
        · exact hsending
      · rintro (_ | _) id
        · exact (if_neg fun h => ControlService.noConfusion h.1).symm
        · refine (htracked.waiting id).trans ?_
          simp only [true_and]
          rfl

theorem dispatch_change {teardown : ReconnectTeardownService}
    (h : sendingOf s.teardown.dispatching = none → teardown.tracker = s.teardown.tracker ∧
      sendingOf teardown.dispatching = none) :
    Change s op { s with
      teardown := if s.teardown.dispatching.isSome then s.teardown else teardown } := by
  split
  · exact .quiet rfl (fun _ => rfl) fun _ => rfl
  next hnone =>
    rw [Bool.not_eq_true, Option.isSome_eq_false_iff, Option.isNone_iff_eq_none] at hnone
    obtain ⟨htracker, hsending⟩ := h (by rw [hnone]; rfl)
    refine .teardown (P := fun _ _ => False) rfl rfl (Or.inr hsending) ?_ fun _ _ => False.elim
    show RequestTracker.EndsOnly s.teardown.tracker teardown.tracker _
    rw [htracker]
    exact .refl _ _

/-- **What a step does**: it makes one request, or it ends some for a reason. -/
theorem step_change (s : ControlServices) (op : ControlOp) : Change s op (s.step op) := by
  cases op with
  | startPeerProfile options responder => exact startPeerProfile_change options responder
  | startTeardown options handlerOk => exact startTeardown_change options handlerOk
  | stop service => exact stop_change service
  | requestPeerProfile request options => exact requestPeerProfile_change request options
  | dispatch plan options =>
    exact dispatch_change fun hidle => s.teardown.beginDispatch_waits hidle plan options
  | dispatchSide sidePlan timeoutMs options =>
    exact dispatch_change fun hidle =>
      s.teardown.beginSideDispatch_waits hidle sidePlan timeoutMs options
  | sendNext => exact sendNext_change
  | sendReturned service sent => exact sendReturned_change service sent
  | expire service nowUsec => exact expire_change service nowUsec
  | arrive serial response => exact arrive_change serial response

end

/-! ## The latest request under an id -/

section

variable {requests : List (ControlService × PacketEnvelope)} {serial other : ℕ}
  {service : ControlService} {id : MessageId}

/-- A request stays the latest one if the new one is of another service or has another id. -/
theorem Latest.concat (h : Latest requests serial service id) (hserial : serial < requests.length)
    {request : ControlService × PacketEnvelope}
    (hnew : request.1 = service → request.2.messageId ≠ id) :
    Latest (requests ++ [request]) serial service id := by
  intro later hlater
  rw [List.drop_append_of_le_length hserial] at hlater
  rcases List.mem_append.mp hlater with hold | hlast
  · exact h later hold
  · rw [List.mem_singleton.mp hlast]
    exact hnew

/-- The last request is the latest one. -/
theorem latest_last (request : ControlService × PacketEnvelope) :
    Latest (requests ++ [request]) requests.length service id := by
  intro later hlater
  rw [List.drop_of_length_le (by simp)] at hlater
  exact absurd hlater List.not_mem_nil

/-- No request with the id comes behind the latest one. -/
theorem Latest.serial_le (h : Latest requests serial service id) {packet : PacketEnvelope}
    (hpacket : requests[other]? = some (service, packet)) (hid : packet.messageId = id) :
    other ≤ serial := by
  by_contra hlt
  rw [not_le] at hlt
  have hlater : (requests.drop (serial + 1))[other - (serial + 1)]? = some (service, packet) := by
    rw [List.getElem?_drop, Nat.add_sub_cancel' hlt, hpacket]
  exact h _ (List.mem_of_getElem? hlater) rfl hid

/-- There is one latest request. -/
theorem Latest.request_eq {packet packet' : PacketEnvelope} (h : Latest requests serial service id)
    (hpacket : requests[serial]? = some (service, packet)) (hid : packet.messageId = id)
    (h' : Latest requests other service id) (hpacket' : requests[other]? = some (service, packet'))
    (hid' : packet'.messageId = id) : packet = packet' := by
  have hsame : serial = other :=
    le_antisymm (h'.serial_le hpacket hid) (h.serial_le hpacket' hid')
  rw [hsame] at hpacket
  exact congrArg Prod.snd (Option.some.inj (hpacket.symm.trans hpacket'))

end

/-! ## The invariant -/

/-- A service waits for the latest of its requests under an id, and under the id of the request it is
sending for that request. -/
structure LatestWaits (s : ControlServices) : Prop where
  waiting : ∀ service id pending, s.waiting service id = some pending →
    id ≠ 0 ∧ pending.request.messageId = id ∧
      ∃ serial, s.requests[serial]? = some (service, pending.request) ∧
        Latest s.requests serial service id
  sending : ∀ service packet, s.sending service = some packet → ∀ pending,
    s.waiting service packet.messageId = some pending → pending.request = packet

theorem latestWaits_start : LatestWaits {} where
  waiting := by
    rintro (_ | _) id pending hpending
    · cases hpending
    · cases hpending
  sending := by
    rintro (_ | _) packet hpacket
    · cases hpacket
    · cases hpacket

section

variable {s after : ControlServices} {op : ControlOp}

/-- **Every step keeps the invariant.** -/
theorem LatestWaits.step (h : LatestWaits s) (op : ControlOp) : LatestWaits (s.step op) := by
  cases step_change s op with
  | requested service packet hidle hid hnew hrequests hsending hwaiting =>
    constructor
    · intro other id pending hpending
      rw [hwaiting] at hpending
      rw [hrequests]
      split at hpending
      next hown =>
        obtain ⟨rfl, rfl⟩ := hown
        obtain rfl := Option.some.inj hpending
        exact ⟨hid, rfl, s.requests.length, List.getElem?_concat_length, latest_last _⟩
      next hother =>
        obtain ⟨hzero, hmessageId, serial, hserial, hlatest⟩ := h.waiting other id pending hpending
        have hlt := (List.getElem?_eq_some_iff.mp hserial).1
        refine ⟨hzero, hmessageId, serial, ?_, hlatest.concat hlt ?_⟩
        · rwa [List.getElem?_append_left hlt]
        · exact fun hservice hsame => hother ⟨hservice.symm, hsame⟩
    · intro other sent hsent pending hpending
      rw [hsending] at hsent
      rw [hwaiting] at hpending
      split at hsent
      next hown =>
        obtain rfl := Option.some.inj hsent
        rw [if_pos ⟨hown, rfl⟩] at hpending
        exact congrArg PendingRequest.request (Option.some.inj hpending).symm
      next hother =>
        rw [if_neg fun hown => hother hown.1] at hpending
        exact h.sending other sent hsent pending hpending
  | ended hrequests hsending hwaiting =>
    have hkept : ∀ service id pending, (s.step op).waiting service id = some pending →
        s.waiting service id = some pending := by
      intro service id pending hpending
      rcases hwaiting service id with hsame | ⟨hnone, -⟩
      · rwa [← hsame]
      · cases hnone.symm.trans hpending
    constructor
    · intro service id pending hpending
      rw [hrequests]
      exact h.waiting service id pending (hkept service id pending hpending)
    · intro service packet hpacket pending hpending
      rcases hsending service with hsame | hnone
      · rw [hsame] at hpacket
        exact h.sending service packet hpacket pending (hkept service _ pending hpending)
      · cases hnone.symm.trans hpacket

/-! ## When a response finds its own request -/

/-- What a service no longer waits for has ended for a reason. -/
theorem Change.reason (hchange : Change s op after) {service : ControlService} {id : MessageId}
    {pending : PendingRequest Unit} (hpending : s.waiting service id = some pending)
    (hgone : after.waiting service id ≠ some pending) : Ended s service id pending op := by
  cases hchange with
  | requested other packet hidle hid hnew hrequests hsending hwaiting =>
    rw [hwaiting] at hgone
    split at hgone
    next hown =>
      obtain ⟨rfl, rfl⟩ := hown
      cases hnew.symm.trans hpending
    · exact absurd hpending hgone
  | ended hrequests hsending hwaiting =>
    rcases hwaiting service id with hsame | ⟨-, hreason⟩
    · exact absurd (hsame.trans hpending) hgone
    · exact hreason pending hpending

/-- A response that finds its own request ends no other. -/
theorem LatestWaits.over (h : LatestWaits s) (hapart : Apart s op) {service : ControlService}
    {id : MessageId} {pending : PendingRequest Unit} (hpending : s.waiting service id = some pending)
    (hended : Ended s service id pending op) : Over s service pending op := by
  obtain ⟨-, hid, serial, hserial, hlatest⟩ := h.waiting service id pending hpending
  cases hended with
  | expired hdeadline => exact .expired hdeadline
  | stopped => exact .stopped
  | @failed sent hstatus packet hsending hpacket =>
    refine .failed hstatus ?_
    rw [hsending, h.sending service packet hsending pending (by rw [hpacket, hpending])]
  | @answered answered response request hrequest hcalled hends =>
    obtain ⟨origin, packet⟩ := request
    have hown := hapart _ hrequest (responseMessageKind_of_terminal hends.1)
    have hpacket : packet.messageId = id := hends.2.2
    -- the service that is called is the one that has made the request
    have hservice : service = origin := by
      by_contra hne
      have hnone := hown.others service hcalled hne
      rw [hpacket, hpending] at hnone
      cases hnone
    subst hservice
    have hwaits : s.waiting service packet.messageId ≠ none := by
      rw [hpacket, hpending]
      exact Option.some_ne_none _
    have hlatest' := hown.latest hcalled hends.1 hwaits
    rw [hpacket] at hlatest'
    have hsame := hlatest'.request_eq hrequest hpacket hlatest hserial hid
    subst hsame
    refine .answered hrequest ?_
    rwa [hid]

theorem step_arrive {serial : ℕ} {request : ControlService × PacketEnvelope}
    (hrequest : s.requests[serial]? = some request) (response : PacketEnvelope) :
    s.step (.arrive serial response) =
      (s.router.submitIncoming (respond request.2 response)).foldl
        (complete (respond request.2 response)) s := by
  show s.arrive serial response = _
  rw [arrive, hrequest]
  rfl

/-- A response that goes to its own request alone finds its own request. -/
theorem LatestWaits.findsOwn (h : LatestWaits s) {serial : ℕ} {response : PacketEnvelope}
    (hown : OwnResponses s (.arrive serial response)) {request : ControlService × PacketEnvelope}
    (hrequest : s.requests[serial]? = some request)
    (hkind : responseMessageKind response.messageKind = true) :
    FindsOwn s serial response request := by
  have hstep := step_arrive hrequest response
  constructor
  · intro other hcalled hne
    -- who waits for the id records the response
    by_contra hwaits
    have hsame := hown.others serial response request rfl hrequest other hne
    obtain ⟨pending, hpending⟩ := Option.ne_none_iff_exists'.mp hwaits
    have hzero := (h.waiting other _ pending hpending).1
    rw [hstep] at hsame
    have hheard : s.heard other < ((s.router.submitIncoming (respond request.2 response)).foldl
        (complete (respond request.2 response)) s).heard other :=
      heard_lt_fold hkind hzero hcalled hwaits
    exact absurd hsame.heard_eq hheard.ne'
  · intro hcalled hterminal hwaits
    obtain ⟨pending, hpending⟩ := Option.ne_none_iff_exists'.mp hwaits
    obtain ⟨hzero, hid, -⟩ := h.waiting request.1 _ pending hpending
    have hgone : (s.step (.arrive serial response)).waiting request.1 request.2.messageId = none := by
      rw [hstep, waiting_fold]
      exact if_pos ⟨hcalled, hterminal, hzero, rfl⟩
    have hover := hown.ended request.1 _ pending hpending (by rw [hgone]; exact (Option.some_ne_none _).symm)
    cases hover with
    | answered _ hlatest => rwa [hid] at hlatest

/-- A response that finds its own request goes to it alone. -/
theorem Apart.same {serial : ℕ} {response : PacketEnvelope}
    (hapart : Apart s (.arrive serial response)) {request : ControlService × PacketEnvelope}
    (hrequest : s.requests[serial]? = some request) {other : ControlService}
    (hne : other ≠ request.1) : Same s (s.step (.arrive serial response)) other := by
  rw [step_arrive hrequest response]
  by_cases hkind : responseMessageKind response.messageKind = true
  · exact same_fold fun hcalled => (hapart request hrequest hkind).others other hcalled hne
  · -- the handlers of both look at the kind first
    refine List.foldlRecOn (motive := fun after => Same s after other) _ _ (Same.refl s other)
      fun after hafter service _ => hafter.trans ?_
    cases service with
    | peerProfile =>
      cases other with
      | peerProfile => exact if_neg hkind
      | teardown => rfl
    | teardown =>
      cases other with
      | peerProfile => rfl
      | teardown => exact congrArg Prod.snd (if_neg hkind)

/-- **A response goes to its own request alone exactly if it finds its own request.** -/
theorem LatestWaits.ownResponses_iff (h : LatestWaits s) (op : ControlOp) :
    OwnResponses s op ↔ Apart s op := by
  constructor
  · intro hown
    cases op
    case arrive serial response =>
      exact fun request hrequest hkind => h.findsOwn hown hrequest hkind
    all_goals exact trivial
  · intro hapart
    constructor
    · rintro serial response request rfl hrequest other hne
      exact hapart.same hrequest hne
    · intro service id pending hpending hgone
      exact h.over hapart hpending ((step_change s op).reason hpending hgone)

end

/-- **Control responses reach only the service that has asked, exactly if** none of them finds a
request of the other service under its id, and none that ends a request comes after a later request of
its own service has been given the id. -/
theorem ownResponses_iff_apart (ops : List ControlOp) :
    Runs.EveryStep step OwnResponses {} ops ↔ Runs.EveryStep step Apart {} ops :=
  Runs.everyStep_iff_of_invariant latestWaits_start (fun _ op h _ => h.step op)
    fun _ op h => h.ownResponses_iff op

/-! ## The first requests of the two services -/

/-- Both services are started as they are by default, the peer profile is asked for, and the peer is
asked to close a channel. -/
def bothAsked : List ControlOp :=
  [.startPeerProfile {} { ok := true }, .startTeardown {} true,
    .requestPeerProfile { clientSessionId := 1 } { wire := { messageId := 0 } },
    .sendReturned .peerProfile { status := .sent },
    .dispatch ⟨[{ sessionId := 1, targetChannel := ⟨2, .control⟩, timeoutMs := 1000 }]⟩ {},
    .sendNext, .sendReturned .teardown { status := .sent }]

/-- The channel has been closed. -/
def closed : PacketEnvelope where
  sessionId := 1
  messageId := 1
  correlationId := 1
  channelId := ChannelIdValue.userAuthMain
  channelType := .control
  packetType := .control
  messageKind := .response
  responseStatus := .ok

/-- **The answer to the teardown request completes the request for the peer profile.** -/
theorem teardown_response_completes_profile :
    (Runs.run step {} bothAsked).peerProfile.active = true ∧
      (Runs.run step {} bothAsked).teardown.active = true ∧
      (Runs.run step {} bothAsked).requests.map Prod.fst = [.peerProfile, .teardown] ∧
      (Runs.run step {} bothAsked).peerProfile.completions = [] ∧
      ((Runs.run step {} (bothAsked ++ [.arrive 1 closed])).peerProfile.completions.map
        PeerProfileRuntimeCompletion.ok = [false]) ∧
      ¬Runs.EveryStep step OwnResponses {} (bothAsked ++ [.arrive 1 closed]) := by
  refine ⟨by decide, by decide, by decide, by decide, by decide, fun h => ?_⟩
  have hown := (Runs.everyStep_concat.mp h).2
  have hrequest : (Runs.run step {} bothAsked).requests[1]?.map Prod.fst = some .teardown := by
    decide
  obtain ⟨request, hrequest, hservice⟩ := Option.map_eq_some_iff.mp hrequest
  have hsame := hown.others 1 closed request rfl hrequest .peerProfile (by rw [hservice]; decide)
  have hcompletions := congrArg (fun p => p.completions.length) hsame
  revert hcompletions
  decide

end ControlServices
end Runtime
end FusionDesk
