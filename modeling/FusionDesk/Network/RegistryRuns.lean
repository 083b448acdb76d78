import FusionDesk.General.Runs
import FusionDesk.Network.NetworkManager

/-!
# Runs of the channel registry

The seven calls that change a registry, in any order and with any arguments, each at a moment of its
own: whether an instance is open is asked at the call.

A snapshot says three times whether its channel can be used: the flag `ready`, the state, and what
`isReady` answers.  The reports read the flag alone, so the three have to agree, and a channel that
is ready has to have an instance.  `unbind`, `markDegraded` and `markFailed` take the flag back when
they leave the state `Ready`; `bind` leaves that state too and does not.

* `call_outcome`: what a call can come to, from one lemma for each of them.
* `SnapshotsSound.step_iff`: from sound snapshots, a call leads to sound ones exactly if it is not
  such a `bind`.
* `call_of_failed`: a call that fails leaves the registry as it was.
* `snapshots_sound_iff`: what the two come to over a run.
-/

namespace FusionDesk
namespace Network

open Protocol

/-- One call. -/
inductive RegistryOp
  | registerSpec (spec : ChannelSpec)
  | bind (key : ChannelKey) (channel : Option IChannel)
  | unbind (key : ChannelKey) (reason : String)
  | markReady (key : ChannelKey) (ready : ChannelReadyInfo)
  | markDegraded (key : ChannelKey) (reason : String)
  | markFailed (key : ChannelKey) (reason : String)
  | updatePressure (key : ChannelKey) (pressure : ChannelPressure)
  deriving DecidableEq, Repr

namespace ChannelRegistry

/-- What a call returns, if anything, and the registry after it. -/
def call (registry : ChannelRegistry) :
    Transport × RegistryOp → Option ChannelRegistryResult × ChannelRegistry
  | (_, .registerSpec spec) => (registry.registerSpec spec).map some id
  | (_, .bind key channel) => (registry.bind key channel).map some id
  | (_, .unbind key reason) => (none, registry.unbind key reason)
  | (transport, .markReady key ready) => (registry.markReady transport key ready).map some id
  | (_, .markDegraded key reason) => (registry.markDegraded key reason).map some id
  | (_, .markFailed key reason) => (registry.markFailed key reason).map some id
  | (_, .updatePressure key pressure) => (registry.updatePressure key pressure).map some id

def step (registry : ChannelRegistry) (moment : Transport × RegistryOp) : ChannelRegistry :=
  (registry.call moment).2

/-- The registry after the calls, from a new one. -/
def run (capabilities : NegotiatedCapabilities) (moments : List (Transport × RegistryOp)) :
    ChannelRegistry :=
  Runs.run step { capabilities := capabilities } moments

/-! ## What the snapshots say -/

/-- What the parts of one entry say about each other. -/
structure EntrySound (entry : ChannelEntry) : Prop where
  /-- The flag says what the state says. -/
  ready_iff : entry.snapshot.ready = true ↔ entry.snapshot.state = .ready
  /-- A ready channel is bound. -/
  bound_of_ready : entry.snapshot.ready = true → entry.snapshot.bound = true
  /-- A bound channel is one with an instance. -/
  bound_iff : entry.snapshot.bound = true ↔ entry.channel.isSome = true

/-- Every entry says one thing, and `isReady` answers it. -/
def SnapshotsSound (registry : ChannelRegistry) : Prop :=
  ∀ key entry, registry.find key = some entry →
    EntrySound entry ∧ (entry.snapshot.ready = true ↔ registry.isReady key = true)

/-- What `isReady` answers for an entry is the flag, if the flag says what the state says. -/
theorem EntrySound.ready_iff_isReady {registry : ChannelRegistry} {key : ChannelKey}
    {entry : ChannelEntry} (h : EntrySound entry) (hfind : registry.find key = some entry) :
    entry.snapshot.ready = true ↔ registry.isReady key = true := by
  unfold isReady
  rw [hfind]
  show _ ↔ (entry.snapshot.ready && entry.snapshot.state == .ready) = true
  rw [Bool.and_eq_true, beq_iff_eq, ← h.ready_iff, and_self]

theorem snapshotsSound_iff (registry : ChannelRegistry) :
    registry.SnapshotsSound ↔ ∀ key entry, registry.find key = some entry → EntrySound entry := by
  constructor
  · intro h key entry hfind
    exact (h key entry hfind).1
  · intro h key entry hfind
    exact ⟨h key entry hfind, (h key entry hfind).ready_iff_isReady hfind⟩

/-- A new registry has no entries. -/
theorem snapshotsSound_empty (capabilities : NegotiatedCapabilities) :
    SnapshotsSound { capabilities := capabilities } := by
  intro key entry hfind
  simp [find] at hfind

/-- **Putting an entry into sound snapshots** leaves them sound exactly if the entry is. -/
theorem SnapshotsSound.put_iff {registry : ChannelRegistry} (h : registry.SnapshotsSound)
    (key : ChannelKey) (entry : ChannelEntry) :
    (registry.put key entry).SnapshotsSound ↔ EntrySound entry := by
  rw [snapshotsSound_iff] at h ⊢
  constructor
  · intro hput
    refine hput key entry ?_
    rw [find_put, if_pos rfl]
  · intro hentry key' entry' hfind
    rw [find_put] at hfind
    by_cases hkey : key = key'
    · rw [if_pos hkey, Option.some_inj] at hfind
      rw [← hfind]
      exact hentry
    · rw [if_neg hkey] at hfind
      exact h key' entry' hfind

/-! ## One call -/

/-- The call binds an instance to a channel that is ready. -/
def BindsReady (registry : ChannelRegistry) : RegistryOp → Prop
  | .bind key (some _) => registry.isReady key = true
  | _ => False

instance (registry : ChannelRegistry) : (op : RegistryOp) → Decidable (registry.BindsReady op)
  | .bind key (some _) => inferInstanceAs (Decidable (registry.isReady key = true))
  | .bind _ none | .registerSpec _ | .unbind _ _ | .markReady _ _ | .markDegraded _ _
  | .markFailed _ _ | .updatePressure _ _ => inferInstanceAs (Decidable False)

/-- Leaving the state `Ready` with the flag taken back. -/
theorem EntrySound.notReady {entry : ChannelEntry} (h : EntrySound entry)
    {state : ChannelLifecycleState} (hstate : state ≠ .ready) (reason : String) :
    EntrySound { entry with
      snapshot := { entry.snapshot with ready := false, state := state, message := reason } } where
  ready_iff := by
    show false = true ↔ state = .ready
    simp [hstate]
  bound_of_ready hready := by cases hready
  bound_iff := h.bound_iff

/-- Becoming ready with an instance there. -/
theorem EntrySound.ready {entry : ChannelEntry} (h : EntrySound entry)
    (hchannel : entry.channel.isSome = true) (ready : ChannelReadyInfo) :
    EntrySound { entry with
      snapshot := { entry.snapshot with
        ready := true, readyInfo := ready, state := .ready, message := "" } } where
  ready_iff := ⟨fun _ => rfl, fun _ => rfl⟩
  bound_of_ready _ := h.bound_iff.mpr hchannel
  bound_iff := h.bound_iff

/-- Binding leaves the flag, so the entry is sound after it exactly if the flag was not set. -/
theorem EntrySound.bind_iff {entry : ChannelEntry} (channel : IChannel) :
    EntrySound { entry with
      channel := some channel
      snapshot := { entry.snapshot with bound := true, state := .bound, message := "" } } ↔
      ¬ entry.snapshot.ready = true := by
  constructor
  · intro h hready
    cases h.ready_iff.mp hready
  · intro hready
    exact ⟨by simp [hready], fun _ => rfl, by simp⟩

/-- What a call can come to, where `binds` says that it binds an instance to a ready channel. -/
inductive Outcome (registry : ChannelRegistry) (binds : Prop) :
    Option ChannelRegistryResult × ChannelRegistry → Prop
  /-- It fails, or it finds nothing to change. -/
  | unchanged {answer : Option ChannelRegistryResult}
      (failed : ∀ result, answer = some result → result.ok = false) (free : ¬ binds) :
      Outcome registry binds (answer, registry)
  /-- It succeeds and writes one entry, a sound one exactly if it does not bind. -/
  | wrote {answer : Option ChannelRegistryResult} {key : ChannelKey} {entry : ChannelEntry}
      (ok : ∀ result, answer = some result → result.ok = true)
      (sound : registry.SnapshotsSound → (EntrySound entry ↔ ¬ binds)) :
      Outcome registry binds (answer, registry.put key entry)

/-- A failure leaves the registry. -/
theorem Outcome.of_failed {registry : ChannelRegistry} {binds : Prop}
    {result : ChannelRegistryResult} (hfailed : result.ok = false) (free : ¬ binds) :
    Outcome registry binds (some result, registry) := by
  refine .unchanged ?_ free
  rintro _ ⟨⟩
  exact hfailed

/-- A success writes an entry. -/
theorem Outcome.of_success {registry : ChannelRegistry} {binds : Prop} {key : ChannelKey}
    {entry : ChannelEntry} (sound : registry.SnapshotsSound → (EntrySound entry ↔ ¬ binds)) :
    Outcome registry binds (some .success, registry.put key entry) := by
  refine .wrote ?_ sound
  rintro _ ⟨⟩
  rfl

theorem registerSpec_outcome (registry : ChannelRegistry) (spec : ChannelSpec) :
    Outcome registry False ((registry.registerSpec spec).map some id) := by
  unfold registerSpec
  split_ifs
  · exact .of_failed rfl not_false
  · exact .of_failed rfl not_false
  · refine .of_success fun _ => iff_of_true ?_ not_false
    exact ⟨by simp, by simp, by simp⟩

theorem bind_outcome (registry : ChannelRegistry) (key : ChannelKey)
    (channel : Option IChannel) :
    Outcome registry (registry.BindsReady (.bind key channel))
      ((registry.bind key channel).map some id) := by
  unfold bind
  cases hfind : registry.find key with
  | none =>
    refine .of_failed rfl ?_
    cases channel with
    | none => exact not_false
    | some channel => simp [BindsReady, isReady, hfind]
  | some entry =>
    cases channel with
    | none => exact .of_failed rfl not_false
    | some channel =>
      refine .of_success fun h => ?_
      rw [EntrySound.bind_iff, (h key entry hfind).2]
      exact Iff.rfl

theorem unbind_outcome (registry : ChannelRegistry) (key : ChannelKey) (reason : String) :
    Outcome registry False (none, registry.unbind key reason) := by
  unfold unbind
  cases registry.find key with
  | none => exact .unchanged (by simp) not_false
  | some entry =>
    refine .wrote (by simp) fun _ => iff_of_true ?_ not_false
    exact ⟨by simp, by simp, by simp⟩

theorem markReady_outcome (registry : ChannelRegistry) (transport : Transport)
    (key : ChannelKey) (ready : ChannelReadyInfo) :
    Outcome registry False ((registry.markReady transport key ready).map some id) := by
  unfold markReady
  cases hfind : registry.find key with
  | none => exact .of_failed rfl not_false
  | some entry =>
    by_cases hopen : entry.channel.any transport.isOpen
    · simp only [if_neg (not_not.mpr hopen)]
      refine .of_success fun h => iff_of_true ((h key entry hfind).1.ready ?_ ready) not_false
      cases hchannel : entry.channel with
      | none =>
        rw [hchannel] at hopen
        cases hopen
      | some channel => rfl
    · simp only [if_pos hopen]
      exact .of_failed rfl not_false

/-- `markDegraded` and `markFailed`. -/
theorem markNotReady_outcome (registry : ChannelRegistry) {state : ChannelLifecycleState}
    (hstate : state ≠ .ready) (key : ChannelKey) (reason : String) :
    Outcome registry False ((registry.markNotReady state key reason).map some id) := by
  unfold markNotReady
  cases hfind : registry.find key with
  | none => exact .of_failed rfl not_false
  | some entry =>
    refine .of_success fun h => iff_of_true ?_ not_false
    exact (h key entry hfind).1.notReady hstate reason

theorem updatePressure_outcome (registry : ChannelRegistry) (key : ChannelKey)
    (pressure : ChannelPressure) :
    Outcome registry False ((registry.updatePressure key pressure).map some id) := by
  unfold updatePressure
  cases hfind : registry.find key with
  | none => exact .of_failed rfl not_false
  | some entry =>
    refine .of_success fun h => iff_of_true ?_ not_false
    obtain ⟨hready, hbound, hchannel⟩ := (h key entry hfind).1
    exact ⟨hready, hbound, hchannel⟩

/-- **What a call does**: it fails or finds nothing to change, or it succeeds and writes one entry,
a sound one exactly if the call does not bind an instance to a ready channel. -/
theorem call_outcome (registry : ChannelRegistry) (moment : Transport × RegistryOp) :
    Outcome registry (registry.BindsReady moment.2) (registry.call moment) := by
  obtain ⟨transport, op⟩ := moment
  cases op with
  | registerSpec spec => exact registry.registerSpec_outcome spec
  | bind key channel => exact registry.bind_outcome key channel
  | unbind key reason => exact registry.unbind_outcome key reason
  | markReady key ready => exact registry.markReady_outcome transport key ready
  | markDegraded key reason => exact registry.markNotReady_outcome (by decide) key reason
  | markFailed key reason => exact registry.markNotReady_outcome (by decide) key reason
  | updatePressure key pressure => exact registry.updatePressure_outcome key pressure

/-- **A call that fails leaves the registry as it was.** -/
theorem call_of_failed {registry : ChannelRegistry} {moment : Transport × RegistryOp}
    {result : ChannelRegistryResult} (hresult : (registry.call moment).1 = some result)
    (hfailed : result.ok = false) : registry.step moment = registry := by
  unfold step
  have houtcome := registry.call_outcome moment
  generalize registry.call moment = called at hresult houtcome ⊢
  cases houtcome with
  | unchanged => rfl
  | wrote ok =>
    have hcontra := ok result hresult
    rw [hfailed] at hcontra
    cases hcontra

/-- **From sound snapshots, a call leads to sound ones** exactly if it does not bind an instance to
a channel that is ready. -/
theorem SnapshotsSound.step_iff {registry : ChannelRegistry} (h : registry.SnapshotsSound)
    (moment : Transport × RegistryOp) :
    (registry.step moment).SnapshotsSound ↔ ¬ registry.BindsReady moment.2 := by
  unfold step
  have houtcome := registry.call_outcome moment
  generalize registry.call moment = called at houtcome ⊢
  cases houtcome with
  | unchanged _ free => exact iff_of_true h free
  | wrote _ sound =>
    rw [h.put_iff]
    exact sound h

/-! ## Runs -/

/-- What is asked of a call: sound snapshots before it and after it, and no change if it fails. -/
structure CallSound (registry : ChannelRegistry) (moment : Transport × RegistryOp) : Prop where
  before : registry.SnapshotsSound
  after : (registry.step moment).SnapshotsSound
  failed : ∀ result, (registry.call moment).1 = some result → result.ok = false →
    registry.step moment = registry

/-- **The snapshots are sound throughout a run**, and a call that fails changes none, exactly if no
call of the run binds an instance to a channel that is ready. -/
theorem snapshots_sound_iff (capabilities : NegotiatedCapabilities)
    (moments : List (Transport × RegistryOp)) :
    Runs.EveryStep step CallSound { capabilities := capabilities } moments ↔
      Runs.EveryStep step (fun registry moment => ¬ registry.BindsReady moment.2)
        { capabilities := capabilities } moments := by
  have hinit := snapshotsSound_empty capabilities
  constructor
  · intro h
    refine Runs.everyStep_of_invariant (I := SnapshotsSound) (C := fun _ => True) hinit ?_ ?_
      (fun _ _ => trivial) h
    · intro registry moment _ _ hcall
      exact hcall.after
    · intro registry moment hsound _ hcall
      exact (hsound.step_iff moment).mp hcall.after
  · intro h
    refine Runs.everyStep_of_invariant (I := SnapshotsSound) (C := fun _ => True) hinit ?_ ?_
      (fun _ _ => trivial) h
    · intro registry moment hsound _ hbinds
      exact (hsound.step_iff moment).mpr hbinds
    · intro registry moment hsound _ hbinds
      refine ⟨hsound, (hsound.step_iff moment).mpr hbinds, ?_⟩
      intro result hresult hfailed
      exact call_of_failed hresult hfailed

/-- The control channel, bound, made ready and bound a second time. -/
def boundTwice : List (Transport × RegistryOp) :=
  [(.allOpen, .registerSpec makeControlSpec),
    (.allOpen, .bind makeControlSpec.key
      (some ⟨0, makeControlSpec.key.channelId, makeControlSpec.key.channelType⟩)),
    (.allOpen, .markReady makeControlSpec.key {}),
    (.allOpen, .bind makeControlSpec.key
      (some ⟨1, makeControlSpec.key.channelId, makeControlSpec.key.channelType⟩))]

/-- After the second binding the flag is set in a snapshot whose state is `Bound`. -/
theorem not_snapshotsSound_boundTwice : ¬ ∀ capabilities moments,
    (run capabilities moments).SnapshotsSound := by
  intro h
  have hstate : ((run {} boundTwice).find makeControlSpec.key).map
      (fun entry => (entry.snapshot.ready, entry.snapshot.state)) = some (true, .bound) := by
    decide +kernel
  obtain ⟨entry, hfind, hentry⟩ := Option.map_eq_some_iff.mp hstate
  obtain ⟨hready, hbound⟩ := Prod.mk.inj hentry
  have hcontra := (h {} boundTwice makeControlSpec.key entry hfind).1.ready_iff.mp hready
  rw [hbound] at hcontra
  cases hcontra

end ChannelRegistry
end Network
end FusionDesk
