import FusionDesk.Network.NetworkManager
import FusionDesk.Network.SchedulerRuns

/-!
# Runs of the network manager

Every operation of the manager, the operations of the registry and the router it gives access to,
and the scheduler's `drain`, in any order, each at a moment of its own: the channel instances open,
close, fail and recover between the steps as they like.  Only the direct `enqueue` of the scheduler
is missing, which would go around the validation.

What a run keeps:

* `LanesAgree.step`: every queued packet is in the queue its default options name.
* `TablesAgree.step`: with the manager's own operations, the instance the registry has bound is the
  one the router holds, and a ready channel has one.
-/

namespace FusionDesk
namespace Network

open Protocol Lanes PriorityScheduler

/-- One call. -/
inductive ManagerOp
  | registerSpec (spec : ChannelSpec)
  | bindChannel (channel : Option IChannel)
  | markReady (key : ChannelKey) (ready : ChannelReadyInfo)
  | markDegraded (key : ChannelKey) (reason : String)
  | rebindChannel (channel : Option IChannel) (ready : ChannelReadyInfo)
  | enqueue (packet : PacketEnvelope)
  | flushNext
  | flushPacket (packet : PacketEnvelope)
  /-- `registry().unbind` and so on. -/
  | unbind (key : ChannelKey) (reason : String)
  | markFailed (key : ChannelKey) (reason : String)
  | updatePressure (key : ChannelKey) (pressure : ChannelPressure)
  | registryBind (key : ChannelKey) (channel : Option IChannel)
  /-- `router().registerChannel` and so on. -/
  | registerChannel (channel : Option IChannel)
  | unregisterChannel (channelId : ChannelId) (channelType : ChannelType)
  /-- `scheduler().drain`. -/
  | drain (key : ChannelKey)
  deriving DecidableEq, Repr

namespace NetworkManager

/-- The flush of a call, if it is one. -/
def flush (manager : NetworkManager) (transport : Transport) : ManagerOp → Option Flush
  | .flushNext => some (manager.flushNext transport)
  | .flushPacket packet => some (manager.flushPacket transport packet)
  | _ => none

/-- The state after one call, at a moment of the transport. -/
def step (manager : NetworkManager) (moment : Transport × ManagerOp) : NetworkManager :=
  match moment with
  | (_, .registerSpec spec) => (manager.registerSpec spec).2
  | (_, .bindChannel channel) => (manager.bindChannel channel).2
  | (transport, .markReady key ready) => (manager.markReady transport key ready).2
  | (_, .markDegraded key reason) => (manager.markDegraded key reason).2
  | (transport, .rebindChannel channel ready) => (manager.rebindChannel transport channel ready).2
  | (_, .enqueue packet) => (manager.enqueue packet).2
  | (transport, .flushNext) => (manager.flushNext transport).manager
  | (transport, .flushPacket packet) => (manager.flushPacket transport packet).manager
  | (_, .unbind key reason) =>
    { manager with registry := manager.registry.unbind key reason }
  | (_, .markFailed key reason) =>
    { manager with registry := (manager.registry.markFailed key reason).2 }
  | (_, .updatePressure key pressure) =>
    { manager with registry := (manager.registry.updatePressure key pressure).2 }
  | (_, .registryBind key channel) =>
    { manager with registry := (manager.registry.bind key channel).2 }
  | (_, .registerChannel channel) =>
    { manager with router := (manager.router.registerChannel channel).2 }
  | (_, .unregisterChannel channelId channelType) =>
    { manager with router := manager.router.unregisterChannel channelId channelType }
  | (_, .drain key) => { manager with scheduler := manager.scheduler.drain key }

/-- The state after the calls, from a new manager. -/
def run (capabilities : NegotiatedCapabilities) (moments : List (Transport × ManagerOp)) :
    NetworkManager :=
  Runs.run step (make capabilities) moments

/-- Registering the default channels is a run of single registrations. -/
theorem registerDefaultMvpChannels_eq (manager : NetworkManager) (transport : Transport) :
    manager.registerDefaultMvpChannels = Runs.run step manager
      (defaultMvpChannelSpecs.map fun spec => (transport, .registerSpec spec)) := rfl

/-- The channels registered, bound to an instance each and ready. -/
def bringUp (specs : List ChannelSpec) : List (Transport × ManagerOp) :=
  specs.flatMap fun spec =>
    [(.allOpen, .registerSpec spec),
      (.allOpen, .bindChannel (some ⟨0, spec.key.channelId, spec.key.channelType⟩)),
      (.allOpen, .markReady spec.key {})]

/-- A packet of the control channel. -/
def heartbeat : PacketEnvelope :=
  { channelId := ChannelIdValue.userAuthMain, channelType := .control, packetType := .heartbeat }

/-! ## What a step does to the scheduler -/

theorem step_enqueue (manager : NetworkManager) (transport : Transport)
    (packet : PacketEnvelope) :
    manager.step (transport, .enqueue packet) = (manager.enqueue packet).2 := rfl

/-- An `enqueue` the registry does not pass. -/
theorem enqueue_of_not_valid {manager : NetworkManager} {packet : PacketEnvelope}
    (h : ¬ (manager.registry.validatePacket packet).ok) :
    manager.enqueue packet =
      ({ status := .rejected, message := (manager.registry.validatePacket packet).message },
        manager) := by
  unfold NetworkManager.enqueue
  simp only [if_pos h]

/-- An `enqueue` the registry passes. -/
theorem enqueue_of_valid {manager : NetworkManager} {packet : PacketEnvelope}
    (h : (manager.registry.validatePacket packet).ok) :
    manager.enqueue packet =
      ((manager.scheduler.enqueue packet (defaultSendOptions packet)).1,
        { manager with
          scheduler := (manager.scheduler.enqueue packet (defaultSendOptions packet)).2
          registry := (manager.registry.updatePressure (keyOf packet)
            (manager.scheduler.enqueue packet (defaultSendOptions packet)).1.pressure).2 }) := by
  unfold NetworkManager.enqueue
  simp only [if_neg (not_not.mpr h)]

/-- The packet of the second lookup of `flushPacket`. -/
def effective (packet : PacketEnvelope) : PacketEnvelope :=
  { packet with priority := (defaultSendOptions packet).priority }

/-- The second lookup happens when the first one finds nothing. -/
theorem takeQueued_cases (scheduler : PriorityScheduler) (packet : PacketEnvelope) :
    (takeQueued scheduler packet = scheduler.takePacket packet ∧
        (scheduler.takePacket packet).1 ≠ none) ∨
      (takeQueued scheduler packet = scheduler.takePacket (effective packet) ∧
        scheduler.takePacket packet = (none, scheduler)) := by
  rcases scheduler.takePacket_cases packet with ⟨hnone, -⟩ | ⟨found, front, back, -, -, -, hsome⟩
  · right
    refine ⟨?_, hnone⟩
    rw [takeQueued, hnone]
    rfl
  · left
    rw [takeQueued, hsome]
    exact ⟨rfl, by simp⟩

/-- The packet a flush is about to take. -/
def wouldTake (manager : NetworkManager) : ManagerOp → Option PacketEnvelope
  | .flushNext => manager.scheduler.nextPacket.1
  | .flushPacket packet => (takeQueued manager.scheduler packet).1
  | _ => none

/-- What taking a packet for `flushPacket` does. -/
theorem takeQueued_outcome (scheduler : PriorityScheduler) (packet : PacketEnvelope) :
    takeQueued scheduler packet = (none, scheduler) ∨
      ∃ found index front back, scheduler.queues index = front ++ found :: back ∧
        takeQueued scheduler packet =
          (some found, ⟨Function.update scheduler.queues index (front ++ back)⟩) := by
  have hlookup : ∀ sought, takeQueued scheduler packet = scheduler.takePacket sought →
      takeQueued scheduler packet = (none, scheduler) ∨
        ∃ found index front back, scheduler.queues index = front ++ found :: back ∧
          takeQueued scheduler packet =
            (some found, ⟨Function.update scheduler.queues index (front ++ back)⟩) := by
    intro sought htake
    rw [htake]
    rcases scheduler.takePacket_cases sought with
      ⟨hnone, -⟩ | ⟨found, front, back, hlane, -, -, hsome⟩
    · exact Or.inl hnone
    · exact Or.inr ⟨found, _, front, back, hlane, hsome⟩
  rcases takeQueued_cases scheduler packet with ⟨htake, -⟩ | ⟨htake, -⟩
  · exact hlookup packet htake
  · exact hlookup (effective packet) htake

/-- **What a flush does**: nothing, or it takes one packet out of its queue and sends it. -/
theorem flush_cases {manager : NetworkManager} {transport : Transport} {op : ManagerOp}
    {flush : Flush} (h : manager.flush transport op = some flush) :
    manager.step (transport, op) = flush.manager ∧ flush.packet = manager.wouldTake op ∧
      ((flush.packet = none ∧ flush.sentTo = none ∧ flush.result.status = .failed ∧
          flush.manager = manager) ∨
        ∃ packet index front back, manager.scheduler.queues index = front ++ packet :: back ∧
          flush = manager.sendTaken transport packet
            ⟨Function.update manager.scheduler.queues index (front ++ back)⟩) := by
  cases op with
  | flushNext =>
    obtain rfl := Option.some.inj h
    refine ⟨rfl, ?_⟩
    show (manager.flushNext transport).packet = manager.scheduler.nextPacket.1 ∧ _
    unfold flushNext
    rcases manager.scheduler.nextPacket_cases with
      ⟨hnone, -⟩ | ⟨packet, index, rest, hlane, -, hsome⟩
    · rw [hnone]
      exact ⟨rfl, Or.inl ⟨rfl, rfl, rfl, rfl⟩⟩
    · rw [hsome]
      exact ⟨rfl, Or.inr ⟨packet, index, [], rest, hlane, rfl⟩⟩
  | flushPacket packet =>
    obtain rfl := Option.some.inj h
    refine ⟨rfl, ?_⟩
    show (manager.flushPacket transport packet).packet =
      (takeQueued manager.scheduler packet).1 ∧ _
    unfold flushPacket
    rcases takeQueued_outcome manager.scheduler packet with
      hnone | ⟨found, index, front, back, hlane, hsome⟩
    · rw [hnone]
      exact ⟨rfl, Or.inl ⟨rfl, rfl, rfl, rfl⟩⟩
    · rw [hsome]
      exact ⟨rfl, Or.inr ⟨found, index, front, back, hlane, rfl⟩⟩
  | _ => cases h

theorem exists_flush_of_wouldTake {manager : NetworkManager} {op : ManagerOp}
    {packet : PacketEnvelope} (h : manager.wouldTake op = some packet) (transport : Transport) :
    ∃ flush, manager.flush transport op = some flush ∧ flush.packet = some packet := by
  cases op with
  | flushNext => exact ⟨_, rfl, (flush_cases rfl).2.1.trans h⟩
  | flushPacket sought => exact ⟨_, rfl, (flush_cases rfl).2.1.trans h⟩
  | _ => cases h

theorem bindChannel_scheduler (manager : NetworkManager) (channel : Option IChannel) :
    (manager.bindChannel channel).2.scheduler = manager.scheduler := by
  cases channel with
  | none => rfl
  | some channel =>
    simp only [bindChannel]
    split_ifs <;> rfl

theorem rebindChannel_scheduler (manager : NetworkManager) (transport : Transport)
    (channel : Option IChannel) (ready : ChannelReadyInfo) :
    (manager.rebindChannel transport channel ready).2.scheduler = manager.scheduler := by
  cases channel with
  | none => rfl
  | some channel =>
    simp only [rebindChannel]
    split_ifs <;> rfl

/-- The calls on the registry and the router leave the queues alone. -/
theorem step_scheduler_eq {manager : NetworkManager} {transport : Transport} {op : ManagerOp}
    (henqueue : ∀ packet, op ≠ .enqueue packet) (hdrain : ∀ key, op ≠ .drain key)
    (hflush : manager.flush transport op = none) :
    (manager.step (transport, op)).scheduler = manager.scheduler := by
  cases op with
  | enqueue packet => exact absurd rfl (henqueue packet)
  | drain key => exact absurd rfl (hdrain key)
  | flushNext => cases hflush
  | flushPacket packet => cases hflush
  | bindChannel channel => exact manager.bindChannel_scheduler channel
  | rebindChannel channel ready => exact manager.rebindChannel_scheduler transport channel ready
  | _ => rfl

/-- **What a step does to the queues**: an accepted packet gets in, and otherwise packets only
leave. -/
theorem step_scheduler (manager : NetworkManager) (moment : Transport × ManagerOp) :
    (∀ index, ((manager.step moment).scheduler.queues index).Sublist
        (manager.scheduler.queues index)) ∨
      ∃ packet, moment.2 = .enqueue packet ∧ (manager.registry.validatePacket packet).ok ∧
        (manager.step moment).scheduler =
          (manager.scheduler.enqueue packet (defaultSendOptions packet)).2 := by
  obtain ⟨transport, op⟩ := moment
  by_cases henqueue : ∃ packet, op = .enqueue packet
  · obtain ⟨packet, rfl⟩ := henqueue
    rw [step_enqueue]
    by_cases hvalid : (manager.registry.validatePacket packet).ok
    · rw [enqueue_of_valid hvalid]
      exact Or.inr ⟨packet, rfl, hvalid, rfl⟩
    · rw [enqueue_of_not_valid hvalid]
      exact Or.inl fun index => List.Sublist.refl _
  · left
    intro index
    by_cases hdrain : ∃ key, op = .drain key
    · obtain ⟨key, rfl⟩ := hdrain
      exact List.filter_sublist
    · rcases hflush : manager.flush transport op with _ | flush
      · rw [step_scheduler_eq (not_exists.mp henqueue) (not_exists.mp hdrain) hflush]
      · obtain ⟨hstep, -, ⟨-, -, -, hsame⟩ | ⟨packet, i, front, back, hlane, rfl⟩⟩ :=
          flush_cases hflush
        · rw [hstep, hsame]
        · rw [hstep]
          exact update_sublist hlane index

/-! ## The queues of the default options -/

/-- The queue the default options name for a packet. -/
def effectiveIndex (packet : PacketEnvelope) : Fin kPriorityCount :=
  priorityIndex (defaultSendOptions packet).priority

/-- Every queued packet is in the queue its default options name. -/
def LanesAgree (manager : NetworkManager) : Prop :=
  ∀ index, ∀ queued ∈ manager.scheduler.queues index, effectiveIndex queued = index

theorem LanesAgree.step {manager : NetworkManager} (h : manager.LanesAgree)
    (moment : Transport × ManagerOp) : (manager.step moment).LanesAgree := by
  intro index queued hqueued
  rcases manager.step_scheduler moment with hsub | ⟨packet, -, -, hscheduler⟩
  · exact h index queued ((hsub index).subset hqueued)
  · rw [hscheduler] at hqueued
    rcases manager.scheduler.mem_queues_enqueue hqueued with hold | ⟨rfl, hindex⟩
    · exact h index queued hold
    · exact hindex.symm

theorem lanesAgree_make (capabilities : NegotiatedCapabilities) :
    (make capabilities).LanesAgree := by
  intro index queued hqueued
  cases hqueued

/-! ## The tables of the registry and the router -/

/-- The manager's own operations and those of the registry that do not go around the router. -/
def KeepsTables : Transport × ManagerOp → Prop
  | (_, .registryBind _ _) | (_, .registerChannel _) | (_, .unregisterChannel _ _) => False
  | _ => True

/-- What the two tables agree on about one entry. -/
structure EntryAgrees (router : NetworkRouter) (key : ChannelKey) (entry : ChannelEntry) :
    Prop where
  held : ∀ channel, entry.channel = some channel → router.channels[key]? = some channel
  bound : entry.snapshot.state = .ready → entry.channel ≠ none

/-- The instance the registry has bound is the one the router holds, and a ready channel has one. -/
def TablesAgree (manager : NetworkManager) : Prop :=
  ∀ key entry, manager.registry.find key = some entry → EntryAgrees manager.router key entry

/-- Replacing one entry by one that agrees. -/
theorem TablesAgree.put {manager : NetworkManager} (h : manager.TablesAgree) {key : ChannelKey}
    {entry : ChannelEntry} (hentry : EntryAgrees manager.router key entry) :
    TablesAgree { manager with registry := manager.registry.put key entry } := by
  intro key' entry' hfind
  rw [ChannelRegistry.find_put] at hfind
  by_cases hkey : key = key'
  · rw [if_pos hkey, Option.some_inj] at hfind
    rw [← hkey, ← hfind]
    exact hentry
  · rw [if_neg hkey] at hfind
    exact h key' entry' hfind

/-- Binding an instance in both tables. -/
theorem TablesAgree.bound {manager : NetworkManager} (h : manager.TablesAgree) (channel : IChannel)
    {entry : ChannelEntry} (hentry : entry.channel = some channel) :
    TablesAgree { manager with
      registry := manager.registry.put channel.key entry
      router := (manager.router.registerChannel (some channel)).2 } := by
  intro key' entry' hfind
  rw [ChannelRegistry.find_put] at hfind
  have hrouter : (manager.router.registerChannel (some channel)).2.channels[key']? =
      if channel.key = key' then some channel else manager.router.channels[key']? := by
    simp only [NetworkRouter.registerChannel, Std.ExtTreeMap.getElem?_insert,
      Std.LawfulEqOrd.compare_eq_iff_eq]
  by_cases hkey : channel.key = key'
  · rw [if_pos hkey, Option.some_inj] at hfind
    refine ⟨fun channel' hchannel' => ?_, fun _ => ?_⟩
    · rw [← hfind, hentry] at hchannel'
      rw [hrouter, if_pos hkey, hchannel']
    · rw [← hfind, hentry]
      simp
  · rw [if_neg hkey] at hfind
    obtain ⟨hheld, hbound⟩ := h key' entry' hfind
    refine ⟨fun channel' hchannel' => ?_, hbound⟩
    rw [hrouter, if_neg hkey]
    exact hheld channel' hchannel'

/-- Pressure is nothing the tables agree on. -/
theorem TablesAgree.updatePressure {manager : NetworkManager} (h : manager.TablesAgree)
    (key : ChannelKey) (pressure : ChannelPressure) :
    TablesAgree { manager with registry := (manager.registry.updatePressure key pressure).2 } := by
  unfold ChannelRegistry.updatePressure
  cases hfind : manager.registry.find key with
  | none => exact h
  | some entry =>
    obtain ⟨hheld, hbound⟩ := h key entry hfind
    exact h.put ⟨hheld, hbound⟩

theorem TablesAgree.markNotReady {manager : NetworkManager} (h : manager.TablesAgree)
    {state : ChannelLifecycleState} (hstate : state ≠ .ready) (key : ChannelKey)
    (reason : String) :
    TablesAgree { manager with
      registry := (manager.registry.markNotReady state key reason).2 } := by
  unfold ChannelRegistry.markNotReady
  cases hfind : manager.registry.find key with
  | none => exact h
  | some entry => exact h.put ⟨(h key entry hfind).held, fun hready => absurd hready hstate⟩

theorem TablesAgree.markReady {manager : NetworkManager} (h : manager.TablesAgree)
    (transport : Transport) (key : ChannelKey) (ready : ChannelReadyInfo) :
    TablesAgree { manager with
      registry := (manager.registry.markReady transport key ready).2 } := by
  unfold ChannelRegistry.markReady
  cases hfind : manager.registry.find key with
  | none => exact h
  | some entry =>
    by_cases hopen : entry.channel.any transport.isOpen
    · simp only [if_neg (not_not.mpr hopen)]
      refine h.put ⟨(h key entry hfind).held, fun _ hnone => ?_⟩
      rw [hnone] at hopen
      cases hopen
    · simp only [if_pos hopen]
      exact h

/-- A flush changes neither table, but for a pressure. -/
theorem TablesAgree.flush {manager : NetworkManager} (h : manager.TablesAgree)
    {transport : Transport} {op : ManagerOp} {flush : Flush}
    (hflush : manager.flush transport op = some flush) :
    (manager.step (transport, op)).TablesAgree := by
  obtain ⟨hstep, -, ⟨-, -, -, hsame⟩ | ⟨packet, index, front, back, -, rfl⟩⟩ := flush_cases hflush
  · rw [hstep, hsame]
    exact h
  · rw [hstep]
    exact h.updatePressure _ _

theorem TablesAgree.step {manager : NetworkManager} (h : manager.TablesAgree)
    {moment : Transport × ManagerOp} (hkeeps : KeepsTables moment) :
    (manager.step moment).TablesAgree := by
  obtain ⟨transport, op⟩ := moment
  cases op with
  | registryBind key channel => exact hkeeps.elim
  | registerChannel channel => exact hkeeps.elim
  | unregisterChannel channelId channelType => exact hkeeps.elim
  | drain key => exact h
  | updatePressure key pressure => exact h.updatePressure key pressure
  | markReady key ready => exact h.markReady transport key ready
  | markDegraded key reason => exact h.markNotReady (by simp) key reason
  | markFailed key reason => exact h.markNotReady (by simp) key reason
  | unbind key reason =>
    simp only [NetworkManager.step, ChannelRegistry.unbind]
    cases hfind : manager.registry.find key with
    | none => exact h
    | some entry =>
      exact h.put ⟨fun channel hchannel => (by cases hchannel), fun hready => (by cases hready)⟩
  | registerSpec spec =>
    simp only [NetworkManager.step, NetworkManager.registerSpec, ChannelRegistry.registerSpec]
    split_ifs
    · exact h
    · exact h
    · exact h.put ⟨fun channel hchannel => (by cases hchannel), fun hready => (by cases hready)⟩
  | enqueue packet =>
    rw [step_enqueue]
    by_cases hvalid : (manager.registry.validatePacket packet).ok
    · rw [enqueue_of_valid hvalid]
      exact h.updatePressure _ _
    · rw [enqueue_of_not_valid hvalid]
      exact h
  | flushNext => exact h.flush rfl
  | flushPacket packet => exact h.flush rfl
  | bindChannel channel =>
    cases channel with
    | none => exact h
    | some channel =>
      rcases manager.registry.bind_cases channel.key channel with
        hbind | ⟨entry, hchannel, -, hbind⟩
      · simp only [NetworkManager.step, NetworkManager.bindChannel, hbind]
        exact h
      · simp only [NetworkManager.step, NetworkManager.bindChannel, hbind]
        exact h.bound channel hchannel
  | rebindChannel channel ready =>
    cases channel with
    | none => exact h
    | some channel =>
      rcases manager.registry.bind_cases channel.key channel with
        hbind | ⟨entry, hchannel, -, hbind⟩
      · simp only [NetworkManager.step, NetworkManager.rebindChannel, hbind]
        exact h
      · simp only [NetworkManager.step, NetworkManager.rebindChannel, hbind]
        exact (h.bound channel hchannel).markReady transport channel.key ready

theorem tablesAgree_make (capabilities : NegotiatedCapabilities) :
    (make capabilities).TablesAgree := by
  intro key entry hfind
  simp [make, ChannelRegistry.find] at hfind

/-- A ready channel has an instance, and it is the one the router holds. -/
theorem TablesAgree.of_isReady {manager : NetworkManager} (h : manager.TablesAgree)
    {key : ChannelKey} (hready : manager.registry.isReady key) :
    ∃ entry channel, manager.registry.find key = some entry ∧ entry.channel = some channel ∧
      manager.router.channels[key]? = some channel := by
  unfold ChannelRegistry.isReady at hready
  cases hfind : manager.registry.find key with
  | none =>
    rw [hfind] at hready
    cases hready
  | some entry =>
    rw [hfind] at hready
    obtain ⟨hheld, hbound⟩ := h key entry hfind
    have hstate := eq_of_beq (Bool.and_eq_true_iff.mp hready).2
    obtain ⟨channel, hchannel⟩ := Option.ne_none_iff_exists'.mp (hbound hstate)
    exact ⟨entry, channel, rfl, hchannel, hheld channel hchannel⟩

end NetworkManager
end Network
end FusionDesk
