import FusionDesk.Input.Modules
import FusionDesk.Qt.PacketChannelFraming

/-!
# From the client's calls to the agent's injector

What a client module says it has sent is what the injector of the agent gets: the events of the calls
that returned `true`, each once and in their order.

* `tally_run`: the counters and the injector of an agent after any calls.
* `sends_run`: the packets and the counters of a client after any calls.
* `injected_of_sent`: the two, with the packet codec and a byte stream between them that is cut
  anywhere and carries the packets of others as well.
-/

namespace FusionDesk
namespace Input

open Protocol Network Runs
open FusionDesk.Display (Wire)
open FusionDesk.Module (ModuleState)

/-- An event of either kind. -/
inductive InputEvent
  | mouse (event : MouseInputEvent)
  | keyboard (event : KeyboardInputEvent)
  deriving DecidableEq, Repr

def InputEvent.kind : InputEvent → InputModuleKind
  | .mouse _ => .mouse
  | .keyboard _ => .keyboard

/-! ## The agent -/

section Agent

variable {J : Type} [IInputInjector J]

/-- The packet is of the type that a module of this kind takes. -/
def addressed (kind : InputModuleKind) (packet : PacketEnvelope) : Bool :=
  (kind == .mouse && packet.packetType == .mouse) ||
    (kind == .keyboard && packet.packetType == .keyboard)

/-- The event in a packet, for a module of the kind. -/
def eventOf (kind : InputModuleKind) (packet : PacketEnvelope) : Option InputEvent :=
  let decoded := decodeInputPayload packet.payload
  if decoded.ok = false ∨ decoded.kind ≠ kind then none
  else if kind = .mouse then some (.mouse decoded.mouse)
  else some (.keyboard decoded.keyboard)

/-- The injector with one more event, and whether it took it. -/
def inject (injector : Option J) (event : InputEvent) : Bool × Option J :=
  match injector with
  | none => (false, none)
  | some injector =>
    match event with
    | .mouse event => Prod.map id some (IInputInjector.injectMouse injector event)
    | .keyboard event => Prod.map id some (IInputInjector.injectKeyboard injector event)

/-- The injector with all the events, and how many it took. -/
def injectAll (injector : Option J) : List InputEvent → ℕ × Option J
  | [] => (0, injector)
  | event :: events =>
    let rest := injectAll (inject injector event).2 events
    ((inject injector event).1.toNat + rest.1, rest.2)

theorem injectAll_append (injector : Option J) (events later : List InputEvent) :
    injectAll injector (events ++ later) =
      ((injectAll injector events).1 + (injectAll (injectAll injector events).2 later).1,
        (injectAll (injectAll injector events).2 later).2) := by
  induction events generalizing injector with
  | nil => rw [List.nil_append, injectAll, Nat.zero_add]
  | cons event events ih =>
    rw [List.cons_append, injectAll, ih, injectAll, Nat.add_assoc]

/-- What packets make of an agent module: those of its type are counted, and the events in them go to
the injector, in their order. -/
structure Tally (before after : InputAgentModule J) (packets : List PacketEnvelope) : Prop where
  kind : after.kind = before.kind
  injector : after.injector =
    (injectAll before.injector (packets.filterMap (eventOf before.kind))).2
  eventsReceived : after.eventsReceived = before.eventsReceived + packets.length
  eventsInjected : after.eventsInjected = before.eventsInjected +
    (injectAll before.injector (packets.filterMap (eventOf before.kind))).1
  decodeFailures : after.decodeFailures + (packets.filterMap (eventOf before.kind)).length =
    before.decodeFailures + packets.length
  counted : after.eventsInjected + after.decodeFailures + after.injectionFailures +
      before.eventsReceived =
    before.eventsInjected + before.decodeFailures + before.injectionFailures + after.eventsReceived

namespace Tally

variable {before middle after : InputAgentModule J} {packets later : List PacketEnvelope}

theorem refl (m : InputAgentModule J) (state : ModuleState) : Tally m { m with state := state } [] :=
  ⟨rfl, rfl, rfl, rfl, rfl, rfl⟩

theorem trans (h : Tally before middle packets) (hlater : Tally middle after later) :
    Tally before after (packets ++ later) := by
  have hinjector := hlater.injector
  have hinjected := hlater.eventsInjected
  have hfailures := hlater.decodeFailures
  rw [h.injector, h.kind] at hinjector hinjected
  rw [h.kind] at hfailures
  refine ⟨hlater.kind.trans h.kind, ?_, ?_, ?_, ?_, ?_⟩
  · rw [List.filterMap_append, injectAll_append]
    exact hinjector
  · rw [hlater.eventsReceived, h.eventsReceived, List.length_append, Nat.add_assoc]
  · rw [List.filterMap_append, injectAll_append, hinjected, h.eventsInjected, Nat.add_assoc]
  · have hfirst := h.decodeFailures
    rw [List.filterMap_append, List.length_append, List.length_append]
    omega
  · have hfirst := h.counted
    have hsecond := hlater.counted
    omega

end Tally

/-- The end of an injection: one event for the injector. -/
theorem tally_finishInjection (m : InputAgentModule J) (event : InputEvent)
    {packet : PacketEnvelope} (hevent : eventOf m.kind packet = some event) {injected : Option (Bool × J)}
    (hinjected : inject m.injector event = match injected with
      | none => (false, m.injector)
      | some answer => (answer.1, some answer.2)) :
    Tally m (InputAgentModule.finishInjection { m with eventsReceived := m.eventsReceived + 1 }
      injected) [packet] := by
  have hpackets : [packet].filterMap (eventOf m.kind) = [event] := by
    rw [List.filterMap_cons, hevent]
    rfl
  have hall : injectAll m.injector [event] =
      ((inject m.injector event).1.toNat, (inject m.injector event).2) := rfl
  rcases injected with - | ⟨_ | _, injector⟩
  all_goals
    refine ⟨rfl, ?_, rfl, ?_, ?_, ?_⟩
    · rw [hpackets, hall, hinjected]
      rfl
    · rw [hpackets, hall, hinjected]
      rfl
    · rw [hpackets]
      rfl
    · simp only [InputAgentModule.finishInjection]
      omega

/-- A packet in which there is no event. -/
theorem tally_decodeFailure (m : InputAgentModule J) {packet : PacketEnvelope}
    (hevent : eventOf m.kind packet = none) :
    Tally m { m with eventsReceived := m.eventsReceived + 1
                     decodeFailures := m.decodeFailures + 1 } [packet] := by
  have hpackets : [packet].filterMap (eventOf m.kind) = [] := by
    rw [List.filterMap_cons, hevent]
    rfl
  refine ⟨rfl, ?_, rfl, ?_, ?_, ?_⟩
  · rw [hpackets]
    rfl
  · rw [hpackets]
    rfl
  · rw [hpackets]
    rfl
  · dsimp only
    omega

omit [IInputInjector J] in
theorem state_finishInjection (m : InputAgentModule J) (injected : Option (Bool × J)) :
    (m.finishInjection injected).state = m.state := by
  rcases injected with - | ⟨_ | _, injector⟩ <;> rfl

/-- A running agent goes on running. -/
theorem state_handlePacket (m : InputAgentModule J) (packet : PacketEnvelope)
    (hrunning : m.state = .running) : (m.handlePacket packet).state = .running := by
  rw [InputAgentModule.handlePacket, if_neg (not_not_intro hrunning)]
  split
  · rw [InputAgentModule.injectMouse]
    dsimp only
    split
    · exact hrunning
    · rw [state_finishInjection]
      exact hrunning
  split
  · rw [InputAgentModule.injectKeyboard]
    dsimp only
    split
    · exact hrunning
    · rw [state_finishInjection]
      exact hrunning
  · exact hrunning

/-- **One packet at a running agent.** -/
theorem tally_handlePacket (m : InputAgentModule J) (packet : PacketEnvelope)
    (hrunning : m.state = .running) :
    Tally m (m.handlePacket packet) (if addressed m.kind packet then [packet] else []) := by
  rw [InputAgentModule.handlePacket, if_neg (not_not_intro hrunning)]
  by_cases hmouse : m.kind = .mouse ∧ packet.packetType = .mouse
  · have haddressed : addressed m.kind packet = true := by
      rw [addressed, hmouse.1, hmouse.2]
      rfl
    rw [if_pos hmouse, haddressed, if_pos rfl, InputAgentModule.injectMouse]
    dsimp only
    by_cases hfailed : (decodeInputPayload packet.payload).ok = false ∨
        (decodeInputPayload packet.payload).kind ≠ .mouse
    · rw [if_pos hfailed]
      refine tally_decodeFailure m ?_
      rw [eventOf, hmouse.1, if_pos hfailed]
    · rw [if_neg hfailed]
      refine tally_finishInjection m (.mouse (decodeInputPayload packet.payload).mouse) ?_ ?_
      · rw [eventOf, hmouse.1, if_neg hfailed, if_pos rfl]
      · cases m.injector <;> rfl
  rw [if_neg hmouse]
  by_cases hkeyboard : m.kind = .keyboard ∧ packet.packetType = .keyboard
  · have haddressed : addressed m.kind packet = true := by
      rw [addressed, hkeyboard.1, hkeyboard.2]
      rfl
    rw [if_pos hkeyboard, haddressed, if_pos rfl, InputAgentModule.injectKeyboard]
    dsimp only
    by_cases hfailed : (decodeInputPayload packet.payload).ok = false ∨
        (decodeInputPayload packet.payload).kind ≠ .keyboard
    · rw [if_pos hfailed]
      refine tally_decodeFailure m ?_
      rw [eventOf, hkeyboard.1, if_pos hfailed]
    · rw [if_neg hfailed]
      refine tally_finishInjection m (.keyboard (decodeInputPayload packet.payload).keyboard) ?_ ?_
      · rw [eventOf, hkeyboard.1, if_neg hfailed, if_neg (by decide)]
      · cases m.injector <;> rfl
  · have haddressed : addressed m.kind packet = false := by
      rw [addressed, Bool.or_eq_false_iff, Bool.and_eq_false_iff, Bool.and_eq_false_iff]
      simp only [beq_eq_false_iff_ne]
      exact ⟨not_and_or.mp hmouse, not_and_or.mp hkeyboard⟩
    rw [if_neg hkeyboard, haddressed, if_neg Bool.false_ne_true]
    exact Tally.refl m m.state

/-- The packets handed to a running agent, one after the other. -/
theorem tally_handleAll (m : InputAgentModule J) (packets : List PacketEnvelope)
    (hrunning : m.state = .running) :
    Tally m (packets.foldl InputAgentModule.handlePacket m)
      (packets.filter (addressed m.kind)) := by
  induction packets generalizing m with
  | nil => exact Tally.refl m m.state
  | cons packet packets ih =>
    have hfirst := tally_handlePacket m packet hrunning
    have hrest := ih (m.handlePacket packet) (state_handlePacket m packet hrunning)
    rw [hfirst.kind] at hrest
    rw [List.foldl_cons, List.filter_cons]
    have hall := hfirst.trans hrest
    by_cases haddressed : addressed m.kind packet = true
    · rwa [if_pos haddressed] at hall ⊢
    · rwa [if_neg haddressed] at hall ⊢

/-! ### Any calls -/

/-- The calls of an agent module. -/
inductive AgentOp
  | attach
  | start
  | stop
  | detach
  | handlePacket (packet : PacketEnvelope)

def InputAgentModule.step (m : InputAgentModule J) : AgentOp → InputAgentModule J
  | .attach => m.attach.2
  | .start => m.start.2
  | .stop => m.stop
  | .detach => m.detach
  | .handlePacket packet => m.handlePacket packet

/-- The packets that calls bring to an agent of the kind while it runs. -/
def arrivals (kind : InputModuleKind) : ModuleState → List AgentOp → List PacketEnvelope
  | _, [] => []
  | _, .attach :: ops => arrivals kind .attached ops
  | _, .start :: ops => arrivals kind .running ops
  | _, .stop :: ops => arrivals kind .stopped ops
  | _, .detach :: ops => arrivals kind .detached ops
  | state, .handlePacket packet :: ops =>
    if state = .running ∧ addressed kind packet = true then packet :: arrivals kind state ops
    else arrivals kind state ops

theorem step_of_not_running (m : InputAgentModule J) (packet : PacketEnvelope)
    (h : m.state ≠ .running) : m.handlePacket packet = m := by
  rw [InputAgentModule.handlePacket, if_pos h]

/-- **An agent after any calls**: what has arrived while it ran has been counted once, and its events
have gone to the injector in the order in which they came. -/
theorem tally_run (m : InputAgentModule J) (ops : List AgentOp) :
    Tally m (run InputAgentModule.step m ops) (arrivals m.kind m.state ops) := by
  induction ops generalizing m with
  | nil => exact Tally.refl m m.state
  | cons op ops ih =>
    rw [run_cons]
    cases op with
    | attach => exact (Tally.refl m .attached).trans (ih { m with state := .attached })
    | start => exact (Tally.refl m .running).trans (ih { m with state := .running })
    | stop => exact (Tally.refl m .stopped).trans (ih { m with state := .stopped })
    | detach => exact (Tally.refl m .detached).trans (ih { m with state := .detached })
    | handlePacket packet =>
      have hrest := ih (m.handlePacket packet)
      rw [arrivals]
      by_cases hrunning : m.state = .running
      · have hfirst := tally_handlePacket m packet hrunning
        rw [hfirst.kind, state_handlePacket m packet hrunning] at hrest
        have hall := hfirst.trans hrest
        rw [hrunning]
        by_cases haddressed : addressed m.kind packet = true
        · rw [if_pos haddressed] at hall
          rw [if_pos ⟨rfl, haddressed⟩]
          exact hall
        · rw [if_neg haddressed] at hall
          rw [if_neg fun h => haddressed h.2]
          exact hall
      · rw [if_neg fun h => hrunning h.1]
        rw [step_of_not_running m packet hrunning] at hrest
        show Tally m (run _ (m.handlePacket packet) ops) _
        rw [step_of_not_running m packet hrunning]
        exact hrest

end Agent

/-! ## The client -/

section Client

variable {C : Type} [IInputCapture C]

/-- The calls of a client module that is attached. -/
inductive ClientOp
  | start
  | stop
  | detach
  | send (event : InputEvent)

/-- A call, and whether it returned `true`. -/
def InputClientModule.call (m : InputClientModule C) : ClientOp → Bool × InputClientModule C
  | .start => m.start
  | .stop => (true, m.stop)
  | .detach => (true, m.detach)
  | .send (.mouse event) => m.sendMouseEvent event
  | .send (.keyboard event) => m.sendKeyboardEvent event

def InputClientModule.step (m : InputClientModule C) (op : ClientOp) : InputClientModule C :=
  (m.call op).2

/-- The events of the calls that said they were sent. -/
def sentBy (m : InputClientModule C) : List ClientOp → List InputEvent
  | [] => []
  | .send event :: ops =>
    (bif (m.call (.send event)).1 then [event] else []) ++ sentBy (m.step (.send event)) ops
  | op :: ops => sentBy (m.step op) ops

/-- The payload of an event and the packet it goes out in. -/
def InputEvent.payload : InputEvent → ByteBuffer
  | .mouse event => encodeMouseInputPayload event
  | .keyboard event => encodeKeyboardInputPayload event

def InputEvent.packetType : InputEvent → PacketType
  | .mouse _ => .mouse
  | .keyboard _ => .keyboard

def InputEvent.sequence : InputEvent → UInt64
  | .mouse event => event.sequence
  | .keyboard event => event.sequence

def InputEvent.timestampUsec : InputEvent → UInt64
  | .mouse event => event.monotonicTimestampUsec
  | .keyboard event => event.monotonicTimestampUsec

def packetOf (runtime : InputRuntime) (event : InputEvent) : PacketEnvelope :=
  { makeInputPacket runtime event.packetType with
    sequence := event.sequence
    monotonicTimestampUsec := event.timestampUsec
    payload := event.payload }

/-- A call by which the events have gone out: on the network, in their order, and counted. -/
structure Sends (before after : InputClientModule C) (events : List InputEvent) : Prop where
  kind : after.kind = before.kind
  sessionId : after.runtime.sessionId = before.runtime.sessionId
  traceId : after.runtime.traceId = before.runtime.traceId
  network : ∀ wire, before.runtime.network = some wire → ∃ next,
    after.runtime.network = some next ∧
      next.sent = wire.sent ++ events.map (packetOf before.runtime)
  eventsSent : after.eventsSent = before.eventsSent + events.length
  ofKind : ∀ event ∈ events, event.kind = before.kind

namespace Sends

variable {before middle after : InputClientModule C} {events later : List InputEvent}

omit [IInputCapture C] in
theorem packetOf_congr (h : Sends before middle events) :
    packetOf middle.runtime = packetOf before.runtime := by
  funext event
  rw [packetOf, packetOf, makeInputPacket, makeInputPacket, h.sessionId, h.traceId]

omit [IInputCapture C] in
theorem trans (h : Sends before middle events) (hlater : Sends middle after later) :
    Sends before after (events ++ later) := by
  refine ⟨hlater.kind.trans h.kind, hlater.sessionId.trans h.sessionId,
    hlater.traceId.trans h.traceId, fun wire hwire => ?_, ?_, fun event hevent => ?_⟩
  · obtain ⟨next, hnext, hsent⟩ := h.network wire hwire
    obtain ⟨last, hlast, hall⟩ := hlater.network next hnext
    refine ⟨last, hlast, ?_⟩
    rw [hall, hsent, h.packetOf_congr, List.map_append, List.append_assoc]
  · rw [hlater.eventsSent, h.eventsSent, List.length_append, Nat.add_assoc]
  · rcases List.mem_append.mp hevent with hfirst | hlast
    · exact h.ofKind event hfirst
    · exact (hlater.ofKind event hlast).trans h.kind

omit [IInputCapture C] in
/-- A call that sends nothing and keeps the runtime. -/
theorem nothing {m after : InputClientModule C} (hkind : after.kind = m.kind)
    (hruntime : after.runtime = m.runtime) (hsent : after.eventsSent = m.eventsSent) :
    Sends m after [] := by
  refine ⟨hkind, by rw [hruntime], by rw [hruntime], fun wire hwire => ?_, hsent,
    List.forall_mem_nil _⟩
  refine ⟨wire, by rw [hruntime, hwire], ?_⟩
  rw [List.map_nil, List.append_nil]

end Sends

omit [IInputCapture C] in
/-- One event. -/
theorem sends_sendPayload (m : InputClientModule C) (event : InputEvent)
    (hkind : event.kind = m.kind) :
    Sends m (m.sendPayload event.packetType event.sequence event.timestampUsec event.payload).2
      (bif (m.sendPayload event.packetType event.sequence event.timestampUsec event.payload).1
        then [event] else []) := by
  rw [InputClientModule.sendPayload]
  cases hnetwork : m.runtime.network with
  | none => exact .nothing rfl rfl rfl
  | some network =>
    dsimp only
    by_cases hrefused : m.state ≠ .running ∨ event.payload = []
    · rw [if_pos hrefused]
      exact .nothing rfl rfl rfl
    have hstatus : ∀ packet, (network.send packet).1 = network.returns 0 := fun _ => rfl
    rw [if_neg hrefused]
    simp only [hstatus]
    have hwire : ∀ wire, m.runtime.network = some wire → wire = network := fun wire hwire =>
      Option.some.inj (hwire.symm.trans hnetwork)
    by_cases hsent : network.returns 0 = .sent
    · rw [if_neg (not_not_intro hsent)]
      refine ⟨rfl, rfl, rfl, fun wire h => ⟨_, rfl, ?_⟩, rfl, ?_⟩
      · rw [hwire wire h]
        show (if network.returns 0 = .sent then _ else _) = _
        rw [if_pos hsent]
        rfl
      · intro other hother
        rw [List.mem_singleton.mp hother]
        exact hkind
    · rw [if_pos hsent]
      refine ⟨rfl, rfl, rfl, fun wire h => ⟨_, rfl, ?_⟩, rfl, List.forall_mem_nil _⟩
      rw [hwire wire h]
      show (if network.returns 0 = .sent then _ else _) = _
      rw [if_neg hsent]
      exact (List.append_nil _).symm

theorem sends_send (m : InputClientModule C) (event : InputEvent) :
    Sends m (m.step (.send event)) (bif (m.call (.send event)).1 then [event] else []) := by
  cases event with
  | mouse event =>
    show Sends m (m.sendMouseEvent event).2 (bif (m.sendMouseEvent event).1 then _ else _)
    rw [InputClientModule.sendMouseEvent]
    by_cases hkind : m.kind ≠ .mouse
    · rw [if_pos hkind]
      exact .nothing rfl rfl rfl
    · rw [if_neg hkind]
      exact sends_sendPayload m (.mouse event) (not_not.mp hkind).symm
  | keyboard event =>
    show Sends m (m.sendKeyboardEvent event).2 (bif (m.sendKeyboardEvent event).1 then _ else _)
    rw [InputClientModule.sendKeyboardEvent]
    by_cases hkind : m.kind ≠ .keyboard
    · rw [if_pos hkind]
      exact .nothing rfl rfl rfl
    · rw [if_neg hkind]
      exact sends_sendPayload m (.keyboard event) (not_not.mp hkind).symm

theorem sends_start (m : InputClientModule C) : Sends m m.start.2 [] := by
  rw [InputClientModule.start]
  by_cases hnone : m.runtime.network.isNone = true
  · rw [if_pos hnone]
    exact .nothing rfl rfl rfl
  rw [if_neg hnone]
  rcases m.capture.map IInputCapture.openCapture with - | ⟨_ | _, capture⟩
  · exact .nothing rfl rfl rfl
  · exact .nothing rfl rfl rfl
  · exact .nothing rfl rfl rfl

/-- **A client after any calls**: on its network are the packets of the events it said it had sent. -/
theorem sends_run (m : InputClientModule C) (ops : List ClientOp) :
    Sends m (run InputClientModule.step m ops) (sentBy m ops) := by
  induction ops generalizing m with
  | nil => exact .nothing rfl rfl rfl
  | cons op ops ih =>
    rw [run_cons]
    cases op with
    | start => exact (sends_start m).trans (ih m.start.2)
    | stop => exact (Sends.nothing rfl rfl rfl : Sends m m.stop []).trans (ih m.stop)
    | detach => exact (Sends.nothing rfl rfl rfl : Sends m m.detach []).trans (ih m.detach)
    | send event => exact (sends_send m event).trans (ih (m.step (.send event)))

end Client

/-! ## The packet in between -/

/-- What the codec has to let through. -/
structure Carries (codec : PacketCodec) : Prop where
  expectedMajor : codec.validationOptions.expectedMajor = currentProtocolMajor
  minimumMinor : ¬currentProtocolMinor < codec.validationOptions.minimumMinor
  maxPayloadBytes : 52 ≤ codec.validationOptions.maxPayloadBytes

theorem length_payload_le (event : InputEvent) : event.payload.length ≤ 52 := by
  cases event with
  | mouse event =>
    rw [InputEvent.payload]
    simp [encodeMouseInputPayload, encodeHeader, PayloadFields.appendU16_eq,
      PayloadFields.appendU32_eq, PayloadFields.appendU64_eq, PayloadFields.appendI32_eq]
  | keyboard event =>
    rw [InputEvent.payload]
    simp [encodeKeyboardInputPayload, encodeHeader, PayloadFields.appendU16_eq,
      PayloadFields.appendU32_eq, PayloadFields.appendU64_eq]

/-- **The packet of an event passes the validator.** -/
theorem valid_packetOf {codec : PacketCodec} (hcarries : Carries codec) {runtime : InputRuntime}
    (hsession : runtime.sessionId ≠ 0) (event : InputEvent) :
    (validate codec.validationOptions (packetOf runtime event)).valid = true := by
  have hlength := length_payload_le event
  have htype : isKnownPacketType event.packetType = true := by cases event <;> rfl
  have hrequest : isRequestLike (packetOf runtime event).messageKind = false := rfl
  have hresponse : isResponseLike (packetOf runtime event).messageKind = false := rfl
  have hstream : isStreamMessage (packetOf runtime event).messageKind = false := rfl
  have hflags : hasFlag (packetFlagNoResponseRequired ||| packetFlagCoalescable)
      packetFlagResponseRequired = false := by decide
  have hrequired : hasFlag (packetOf runtime event).flags packetFlagResponseRequired = false :=
    hflags
  have hquiet : hasFlag (packetFlagNoResponseRequired ||| packetFlagCoalescable)
      packetFlagNoResponseRequired = true := by decide
  rw [validate_valid_iff]
  refine ⟨hcarries.expectedMajor.symm, hcarries.minimumMinor, fun h => hsession h.2,
    fun h => h.2 rfl, rfl, htype, rfl, rfl, rfl, hlength.trans hcarries.maxPayloadBytes,
    fun h => ne_true_of_eq_false hrequest h.1, fun h => ne_true_of_eq_false hrequest h.1,
    fun h => ne_true_of_eq_false hrequest h.1, fun h => ne_true_of_eq_false hrequired h.2.1,
    fun h => ne_true_of_eq_false hresponse h.1, fun h => ne_true_of_eq_false hstream h.1,
    fun h => ne_true_of_eq_false hrequired h.1, fun h => h.2.1 hquiet⟩

/-- The packet of an event is for a module of its kind, which finds the event in it. -/
theorem eventOf_packetOf (runtime : InputRuntime) (event : InputEvent) :
    addressed event.kind (packetOf runtime event) = true ∧
      eventOf event.kind (packetOf runtime event) = some event := by
  cases event with
  | mouse event =>
    have hdecoded := decodeInputPayload_accepted (accepted_encodeMouse event) []
    rw [List.append_nil] at hdecoded
    refine ⟨rfl, ?_⟩
    simp only [eventOf, packetOf, InputEvent.payload, hdecoded]
    rfl
  | keyboard event =>
    have hdecoded := decodeInputPayload_accepted (accepted_encodeKeyboard event) []
    rw [List.append_nil] at hdecoded
    refine ⟨rfl, ?_⟩
    simp only [eventOf, packetOf, InputEvent.payload, hdecoded]
    rfl

theorem filterMap_eventOf {kind : InputModuleKind} (runtime : InputRuntime)
    {events : List InputEvent} (h : ∀ event ∈ events, event.kind = kind) :
    (events.map (packetOf runtime)).filterMap (eventOf kind) = events := by
  rw [List.filterMap_map]
  induction events with
  | nil => rfl
  | cons event events ih =>
    have hevent : (eventOf kind ∘ packetOf runtime) event = some event := by
      rw [← h event List.mem_cons_self]
      exact (eventOf_packetOf runtime event).2
    rw [List.filterMap_cons_some hevent, ih fun other hother =>
      h other (List.mem_cons_of_mem _ hother)]

/-! ## End to end -/

variable {C J : Type} [IInputCapture C] [IInputInjector J]

/-- **What the client says it has sent is what the injector gets.**  The client sends over a network
of its own; the packets on the connection are its packets and, between them, valid packets that are
not for an input module of its kind; they are encoded, and the bytes arrive in pieces cut anywhere. -/
theorem injected_of_sent {client : InputClientModule C} {network : Wire} {ops : List ClientOp}
    {agent : InputAgentModule J} {channel : Qt.QtPacketChannel} {stream : List PacketEnvelope}
    {chunks : List ByteBuffer}
    (hnetwork : client.runtime.network = some network) (hempty : network.sent = [])
    (hsession : client.runtime.sessionId ≠ 0) (hcarries : Carries channel.codec)
    (hrouter : channel.ingressRouter = some []) (hinbound : channel.inbound = [])
    (hstream : some (stream.filter (addressed client.kind)) =
      (run InputClientModule.step client ops).runtime.network.map Wire.sent)
    (hothers : ∀ packet ∈ stream, addressed client.kind packet = false →
      (validate channel.codec.validationOptions packet).valid = true ∧
        packet.payload.length < 2 ^ 32)
    (hchunks : chunks.flatten = (stream.map channel.codec.encode).flatten)
    (hkind : agent.kind = client.kind) (hrunning : agent.state = .running) :
    ∃ received, (channel.onBytesAll chunks).ingressRouter = some received ∧
      let after := received.foldl InputAgentModule.handlePacket agent
      let events := sentBy client ops
      after.injector = (injectAll agent.injector events).2 ∧
        after.eventsInjected = agent.eventsInjected + (injectAll agent.injector events).1 ∧
        after.eventsReceived = agent.eventsReceived + events.length ∧
        after.decodeFailures = agent.decodeFailures ∧
        (run InputClientModule.step client ops).eventsSent = client.eventsSent + events.length := by
  have hsends := sends_run client ops
  obtain ⟨last, hlast, hsent⟩ := hsends.network network hnetwork
  rw [hempty, List.nil_append] at hsent
  rw [hlast, Option.map_some, hsent, Option.some.injEq] at hstream
  have hvalid : ∀ packet ∈ stream,
      (validate channel.codec.validationOptions packet).valid = true ∧
        packet.payload.length < 2 ^ 32 := by
    intro packet hpacket
    cases haddressed : addressed client.kind packet with
    | false => exact hothers packet hpacket haddressed
    | true =>
      have hmem := List.mem_filter.mpr ⟨hpacket, haddressed⟩
      rw [hstream] at hmem
      obtain ⟨event, -, rfl⟩ := List.mem_map.mp hmem
      refine ⟨valid_packetOf hcarries hsession event, ?_⟩
      exact Nat.lt_of_le_of_lt (length_payload_le event) (by decide)
  have hreceived := Qt.QtPacketChannel.onBytesAll_encode channel stream chunks [] hrouter hinbound
    hvalid hchunks
  refine ⟨stream, ?_, ?_⟩
  · rw [hreceived]
    rfl
  have htally := tally_handleAll agent stream hrunning
  rw [hkind, hstream] at htally
  have hevents := filterMap_eventOf client.runtime hsends.ofKind
  have hinjector := htally.injector
  have hinjected := htally.eventsInjected
  have hfailures := htally.decodeFailures
  rw [hkind, hevents] at hinjector hinjected hfailures
  have hcount := htally.eventsReceived
  rw [List.length_map] at hcount hfailures
  exact ⟨hinjector, hinjected, hcount, Nat.add_right_cancel hfailures, hsends.eventsSent⟩

/-! ### Two events among the packets of others -/

/-- An injector that takes every event. -/
structure Recorder where
  taken : List InputEvent := []

instance : IInputInjector Recorder where
  injectMouse recorder event := (true, ⟨recorder.taken ++ [.mouse event]⟩)
  injectKeyboard recorder event := (true, ⟨recorder.taken ++ [.keyboard event]⟩)

instance : IInputCapture Unit where
  openCapture capture := (true, capture)
  close capture := capture

/-- A network that has no room for the second packet. -/
def sampleNetwork : Wire where
  returns n := if n = 1 then .backPressure else .sent

def sampleClient : InputClientModule Unit where
  moduleId := "input.mouse.client"
  kind := .mouse
  capture := some ()
  runtime := { sessionId := 7, network := some sampleNetwork }

/-- One send before the start, one that finds no room and one of the other kind. -/
def sampleOps : List ClientOp :=
  [.send (.mouse {}), .start, .send (.mouse { x := -5 }), .send (.mouse { y := 9 }),
    .send (.keyboard {}), .send (.mouse { x := 6 })]

def sampleStream : List PacketEnvelope :=
  [packetOf sampleClient.runtime (.mouse { x := -5 }), { sessionId := 8, channelId := 0x1001 },
    packetOf sampleClient.runtime (.mouse { x := 6 })]

def sampleAgent : InputAgentModule Recorder where
  moduleId := "input.mouse.agent"
  kind := .mouse
  injector := some {}
  state := .running

def sampleBytes : ByteBuffer := (sampleStream.map (PacketCodec.encode {})).flatten

theorem injected_of_sent_samples :
    ∃ received, (Qt.QtPacketChannel.onBytesAll { ingressRouter := some [] }
        [sampleBytes.take 130, sampleBytes.drop 130]).ingressRouter = some received ∧
      let after := received.foldl InputAgentModule.handlePacket sampleAgent
      let events := sentBy sampleClient sampleOps
      after.injector = (injectAll sampleAgent.injector events).2 ∧
        after.eventsInjected = sampleAgent.eventsInjected +
          (injectAll sampleAgent.injector events).1 ∧
        after.eventsReceived = sampleAgent.eventsReceived + events.length ∧
        after.decodeFailures = sampleAgent.decodeFailures ∧
        (run InputClientModule.step sampleClient sampleOps).eventsSent =
          sampleClient.eventsSent + events.length := by
  have hstream : some (sampleStream.filter (addressed sampleClient.kind)) =
      (run InputClientModule.step sampleClient sampleOps).runtime.network.map Wire.sent := by
    decide +kernel
  have hothers : ∀ packet ∈ sampleStream, addressed sampleClient.kind packet = false →
      (validate {} packet).valid = true ∧ packet.payload.length < 2 ^ 32 := by
    decide +kernel
  have hchunks : [sampleBytes.take 130, sampleBytes.drop 130].flatten = sampleBytes := by
    rw [List.flatten_cons, List.flatten_cons, List.flatten_nil, List.append_nil,
      List.take_append_drop]
  exact injected_of_sent rfl rfl (by decide) ⟨rfl, by decide, by decide⟩ rfl rfl hstream hothers
    hchunks rfl rfl

end Input
end FusionDesk
