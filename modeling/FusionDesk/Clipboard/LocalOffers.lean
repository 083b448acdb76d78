import FusionDesk.Clipboard.OfferRestriction
import FusionDesk.Clipboard.Received
import FusionDesk.General.Runs

/-!
# What a peer's offer changes

Two runs of a module that differ in one format list of the peer.  The local bundle and the offers of
the peer are in one registry, under the offer ids that the two sides choose on their own.  A list
under an id of its own adds an entry that nothing local looks at, and the two runs go on alike; a
list under the id of the local bundle takes the place of its entry.

* `SameOffers`: two registries with the same entries of some offers, and inert ones of all others.
  Every call of the registry keeps it.
* `Undisturbed`: two modules with the same local side over such registries.  Every call of the
  module keeps it (`Undisturbed.step`), and so every run.
* `offers_undisturbed`: what this says of reads.
-/

namespace FusionDesk
namespace Clipboard

open Protocol Network
open FusionDesk.Module
open InMemoryTransferSourceRegistry

/-! ## Registries -/

/-- **The same entries of the offers in `own`**, and none of another offer that can be told. -/
structure SameOffers (own : List TransferOfferId) (r r' : InMemoryTransferSourceRegistry) :
    Prop where
  restrict_eq : r.restrictTo own = r'.restrictTo own
  sound : OffersSound r
  sound' : OffersSound r'
  inert : ForeignInert own r
  inert' : ForeignInert own r'

namespace SameOffers

variable {own : List TransferOfferId} {r r' : InMemoryTransferSourceRegistry}

theorem lookupSource_eq (h : SameOffers own r r') {request : TransferReadRequest}
    (hown : request.offerId ∈ own) : r.lookupSource request = r'.lookupSource request := by
  rw [← lookupSource_restrictTo hown, h.restrict_eq, lookupSource_restrictTo hown]

/-- Entries of other offers have no lock. -/
theorem unlocked {offerId : TransferOfferId} (h : ForeignInert own r) (hforeign : offerId ∉ own) :
    ∀ entry ∈ r.entries, entry.bundle.offerId = offerId → entry.locks = [] :=
  fun entry hentry hoffer => (h entry hentry (hoffer ▸ hforeign)).locks

theorem clearOffer (h : SameOffers own r r') (offerId : TransferOfferId) :
    SameOffers own (r.clearOffer offerId).2 (r'.clearOffer offerId).2 where
  restrict_eq := by
    by_cases hown : offerId ∈ own
    · rw [restrictTo_clearOffer hown, restrictTo_clearOffer hown, h.restrict_eq]
    · rw [restrictTo_clearOffer_foreign h.sound hown, restrictTo_clearOffer_foreign h.sound' hown,
        h.restrict_eq]
  sound := h.sound.clearOffer offerId
  sound' := h.sound'.clearOffer offerId
  inert := h.inert.clearOffer offerId
  inert' := h.inert'.clearOffer offerId

/-- **A bundle is refused by both or by none.** -/
theorem status_store (h : SameOffers own r r') (bundle : TransferSourceBundle) :
    (r.store bundle).1 = (r'.store bundle).1 := by
  rw [← InMemoryTransferSourceRegistry.status_store (unlocked h.inert), h.restrict_eq,
    InMemoryTransferSourceRegistry.status_store (unlocked h.inert')]

/-- **Both store the bundle of a peer.** -/
theorem store_inert (h : SameOffers own r r') {bundle : TransferSourceBundle}
    (hinert : Inert { bundle := bundle }) :
    SameOffers own (r.store bundle).2 (r'.store bundle).2 where
  restrict_eq := by
    by_cases hown : bundle.offerId ∈ own
    · cases hstorable : storable bundle with
      | false =>
        rw [store_of_not_storable hstorable, store_of_not_storable hstorable]
        exact h.restrict_eq
      | true =>
        have hstored := congrArg Prod.snd
          (@restrictTo_store r own bundle hstorable fun hnot => absurd hown hnot)
        have hstored' := congrArg Prod.snd
          (@restrictTo_store r' own bundle hstorable fun hnot => absurd hown hnot)
        simp only [restrictTo_cons_of_mem hown] at hstored hstored'
        rw [hstored, hstored', h.restrict_eq]
    · rw [restrictTo_store_foreign h.sound hown, restrictTo_store_foreign h.sound' hown,
        h.restrict_eq]
  sound := h.sound.store bundle
  sound' := h.sound'.store bundle
  inert := h.inert.store (Or.inr hinert)
  inert' := h.inert'.store (Or.inr hinert)

/-- **One of the two stores the bundle of a peer under another id.** -/
theorem store_foreign (h : SameOffers own r r') {bundle : TransferSourceBundle}
    (hinert : Inert { bundle := bundle }) (hforeign : bundle.offerId ∉ own) :
    SameOffers own (r.store bundle).2 r' :=
  ⟨(restrictTo_store_foreign h.sound hforeign).trans h.restrict_eq, h.sound.store bundle, h.sound',
    h.inert.store (Or.inr hinert), h.inert'⟩

theorem clearOffer_foreign (h : SameOffers own r r') {offerId : TransferOfferId}
    (hforeign : offerId ∉ own) : SameOffers own (r.clearOffer offerId).2 r' :=
  ⟨(restrictTo_clearOffer_foreign h.sound hforeign).trans h.restrict_eq, h.sound.clearOffer offerId,
    h.sound', h.inert.clearOffer offerId, h.inert'⟩

/-- **Both store a local bundle**, and its offer is an own one from then on. -/
theorem store (h : SameOffers own r r') {bundle : TransferSourceBundle}
    (hok : (r.store bundle).1 = .ok) :
    SameOffers (bundle.offerId :: own) (r.store bundle).2 (r'.store bundle).2 := by
  have hstorable : storable bundle = true := by
    by_contra hnot
    rw [store_of_not_storable (Bool.eq_false_of_not_eq_true hnot)] at hok
    cases hok
  have hwider : ∀ r : InMemoryTransferSourceRegistry, ForeignInert own r →
      ForeignInert (bundle.offerId :: own) (r.store bundle).2 := by
    intro r hinert
    refine ForeignInert.store ?_ (Or.inl List.mem_cons_self)
    exact fun entry hentry hnot =>
      hinert entry hentry fun hmem => hnot (List.mem_cons_of_mem _ hmem)
  refine ⟨?_, h.sound.store bundle, h.sound'.store bundle, hwider r h.inert, hwider r' h.inert'⟩
  have hstored := congrArg Prod.snd (restrictTo_store hstorable (unlocked h.inert))
  have hstored' := congrArg Prod.snd (restrictTo_store hstorable (unlocked h.inert'))
  simp only at hstored hstored'
  rw [hstored, hstored', h.restrict_eq]

/-- **Both refuse a local bundle.** -/
theorem store_refused (h : SameOffers own r r') {bundle : TransferSourceBundle}
    (hrefused : (r.store bundle).1 ≠ .ok) :
    SameOffers own (r.store bundle).2 (r'.store bundle).2 := by
  cases hstorable : storable bundle with
  | false =>
    rw [store_of_not_storable hstorable, store_of_not_storable hstorable]
    exact h
  | true =>
    have hcleared : ∀ r : InMemoryTransferSourceRegistry, (r.store bundle).1 ≠ .ok →
        (r.store bundle).2 = (r.clearOffer bundle.offerId).2 := by
      intro r hrefused
      rw [store_of_storable hstorable] at hrefused ⊢
      simp only at hrefused ⊢
      split
      · rfl
      · next hfree => simp only [if_neg hfree, ne_eq, not_true_eq_false] at hrefused
    rw [hcleared r hrefused, hcleared r' (h.status_store bundle ▸ hrefused)]
    exact h.clearOffer bundle.offerId

/-- **A lock is answered alike where it is about an own offer**, and taken by both or by none. -/
theorem lockObject (h : SameOffers own r r') (now : Moment) (request : TransferObjectLockRequest) :
    SameOffers own (r.lockObject now request).2 (r'.lockObject now request).2 where
  restrict_eq := by
    by_cases hown : request.offerId ∈ own
    · have hlocked := congrArg Prod.snd (@restrictTo_lockObject r own now request hown)
      have hlocked' := congrArg Prod.snd (@restrictTo_lockObject r' own now request hown)
      simp only at hlocked hlocked'
      rw [← hlocked, h.restrict_eq, hlocked']
    · rw [lockObject_foreign h.inert hown, lockObject_foreign h.inert' hown, h.restrict_eq]
  sound := h.sound.lockObject now request
  sound' := h.sound'.lockObject now request
  inert := h.inert.lockObject now request
  inert' := h.inert'.lockObject now request

theorem unlockObject (h : SameOffers own r r') (request : TransferObjectLockRequest) :
    SameOffers own (r.unlockObject request).2 (r'.unlockObject request).2 where
  restrict_eq := by
    by_cases hown : request.offerId ∈ own
    · have hunlocked := congrArg Prod.snd (@restrictTo_unlockObject r own request hown)
      have hunlocked' := congrArg Prod.snd (@restrictTo_unlockObject r' own request hown)
      simp only at hunlocked hunlocked'
      rw [← hunlocked, h.restrict_eq, hunlocked']
    · rw [unlockObject_foreign h.inert hown, unlockObject_foreign h.inert' hown, h.restrict_eq]
  sound := h.sound.unlockObject request
  sound' := h.sound'.unlockObject request
  inert := h.inert.unlockObject request
  inert' := h.inert'.unlockObject request

theorem nextLockId_eq (h : SameOffers own r r') : r.nextLockId = r'.nextLockId :=
  congrArg (·.nextLockId) h.restrict_eq

/-- Both are emptied. -/
theorem clearAll (h : SameOffers own r r') :
    SameOffers own r.releaseAllLocks.2.clearAll.2 r'.releaseAllLocks.2.clearAll.2 := by
  rw [entries_clearAll_releaseAllLocks, entries_clearAll_releaseAllLocks, h.nextLockId_eq]
  have hsound : OffersSound { r' with entries := [] } :=
    ⟨List.nodup_nil, (fun _ hentry => nomatch hentry), (fun _ hentry => nomatch hentry)⟩
  have hinert : ForeignInert own { r' with entries := [] } := fun _ hentry => nomatch hentry
  exact ⟨rfl, hsound, hsound, hinert, hinert⟩

/-- **An offer without an entry need not be an own one.** -/
theorem prune (h : SameOffers own r r') {kept : List TransferOfferId} (hkept : kept ⊆ own)
    (hheld : ∀ entry ∈ r.entries, entry.bundle.offerId ∈ own → entry.bundle.offerId ∈ kept) :
    SameOffers kept r r' := by
  have hheld' : ∀ entry ∈ r'.entries, entry.bundle.offerId ∈ own → entry.bundle.offerId ∈ kept := by
    intro entry hentry hown
    have hmem : entry ∈ (r'.restrictTo own).entries :=
      List.mem_filter.mpr ⟨hentry, decide_eq_true hown⟩
    rw [← h.restrict_eq] at hmem
    exact hheld entry (List.mem_filter.mp hmem).1 hown
  have hrestrict : ∀ r : InMemoryTransferSourceRegistry,
      (∀ entry ∈ r.entries, entry.bundle.offerId ∈ own → entry.bundle.offerId ∈ kept) →
      r.restrictTo kept = r.restrictTo own := by
    intro r hheld
    ext : 1
    · refine List.filter_congr fun entry hentry => ?_
      exact decide_eq_decide.mpr ⟨fun hmem => hkept hmem, hheld entry hentry⟩
    · rfl
  have hinert : ∀ r : InMemoryTransferSourceRegistry, ForeignInert own r →
      (∀ entry ∈ r.entries, entry.bundle.offerId ∈ own → entry.bundle.offerId ∈ kept) →
      ForeignInert kept r := fun r hinert hheld entry hentry hnot =>
    hinert entry hentry fun hown => hnot (hheld entry hentry hown)
  refine ⟨?_, h.sound, h.sound', hinert r h.inert hheld, hinert r' h.inert' hheld'⟩
  rw [hrestrict r hheld, hrestrict r' hheld', h.restrict_eq]

end SameOffers

/-! ## The local side -/

/-- What a module answers reads from. -/
structure LocalSide where
  dependencies : ClipboardModuleDependencies
  runtime : ClipboardRuntime
  state : ModuleState
  localBundle : TransferSourceBundle
  sourceRegistry : InMemoryTransferSourceRegistry

namespace ClipboardModule

variable {m : ClipboardModule} {surroundings : Surroundings} {bundle : TransferSourceBundle}

def localSide (m : ClipboardModule) : LocalSide where
  dependencies := m.dependencies
  runtime := m.runtime
  state := m.state
  localBundle := m.localBundle
  sourceRegistry := m.sourceRegistry

/-- A call that is about no offer leaves the local side alone. -/
theorem leaves_localSide (m : ClipboardModule) (surroundings : Surroundings) {op : ClipboardOp}
    (h : op.aboutOffers = false) : (m.perform surroundings op).Leaves localSide m :=
  leaves_perform (fun _ _ => rfl) (fun _ _ _ => rfl) (fun _ _ _ => rfl)
    (fun _ _ _ _ _ _ _ _ _ => rfl) (fun _ _ _ => rfl) m surroundings h

/-! ### Announcements -/

/-- The announcement of the bundle comes to the registry. -/
def reachesRegistry (m : ClipboardModule) (surroundings : Surroundings)
    (bundle : TransferSourceBundle) : Bool :=
  decide (m.state = .running) && m.mayAnnounce bundle &&
    !(m.announcedList surroundings.moment bundle).formats.isEmpty

theorem announceLocalBundle_of_not_reaches (h : m.reachesRegistry surroundings bundle = false) :
    m.announceLocalBundle surroundings bundle = .refused m := by
  unfold announceLocalBundle
  by_cases hstate : m.state ≠ .running
  · rw [if_pos hstate]
  rw [if_neg hstate]
  by_cases hdenied : m.mayAnnounce bundle = false
  · rw [if_pos hdenied]
  rw [if_neg hdenied]
  have hempty : (m.announcedList surroundings.moment bundle).formats = [] := by
    simpa [reachesRegistry, not_not.mp hstate, hdenied] using h
  exact if_pos hempty

theorem announceLocalBundle_of_reaches (h : m.reachesRegistry surroundings bundle = true) :
    m.announceLocalBundle surroundings bundle =
      let stored := m.sourceRegistry.store (m.announcedForm bundle)
      if stored.1 ≠ .ok then .refused { m with sourceRegistry := stored.2 }
      else
        .returning { m with sourceRegistry := stored.2 }
          { m.makePacket .event with
            flags := packetFlagNoResponseRequired
            sequence := (m.announcedForm bundle).sequence
            monotonicTimestampUsec := surroundings.nowUsec
            payload := encodeFdclFormatList (m.announcedList surroundings.moment bundle) }
          (.announced (m.announcedForm bundle)) := by
  simp only [reachesRegistry, Bool.and_eq_true, decide_eq_true_eq, Bool.not_eq_true',
    List.isEmpty_eq_false_iff] at h
  obtain ⟨⟨hstate, hmay⟩, hformats⟩ := h
  rw [announceLocalBundle, if_neg (not_not.mpr hstate), if_neg (by simp [hmay])]
  exact if_neg hformats

theorem announceLocalBundle_of_refused (h : m.reachesRegistry surroundings bundle = true)
    (hrefused : (m.sourceRegistry.store (m.announcedForm bundle)).1 ≠ .ok) :
    m.announceLocalBundle surroundings bundle =
      .refused { m with
        sourceRegistry := (m.sourceRegistry.store (m.announcedForm bundle)).2 } := by
  rw [announceLocalBundle_of_reaches h]
  exact if_pos hrefused

theorem announceLocalBundle_of_stored (h : m.reachesRegistry surroundings bundle = true)
    (hok : (m.sourceRegistry.store (m.announcedForm bundle)).1 = .ok) :
    m.announceLocalBundle surroundings bundle =
      .returning
        { m with sourceRegistry := (m.sourceRegistry.store (m.announcedForm bundle)).2 }
        { m.makePacket .event with
          flags := packetFlagNoResponseRequired
          sequence := (m.announcedForm bundle).sequence
          monotonicTimestampUsec := surroundings.nowUsec
          payload := encodeFdclFormatList (m.announcedList surroundings.moment bundle) }
        (.announced (m.announcedForm bundle)) := by
  rw [announceLocalBundle_of_reaches h]
  exact if_neg (not_not.mpr hok)

end ClipboardModule

/-! ## Modules -/

/-- **The same local side**, over registries with the same entries of the offers in `own`, the local
bundle's among them. -/
structure Undisturbed (own : List TransferOfferId) (s t : ClipboardModule) : Prop where
  dependencies_eq : s.dependencies = t.dependencies
  runtime_eq : s.runtime = t.runtime
  state_eq : s.state = t.state
  localBundle_eq : s.localBundle = t.localBundle
  localOwn : s.localBundle.offerId ∈ own
  offers : SameOffers own s.sourceRegistry t.sourceRegistry

namespace Undisturbed

open ClipboardModule

variable {own : List TransferOfferId} {s t s' t' : ClipboardModule}

/-- Two modules whose local sides are those of two undisturbed ones, up to the registry. -/
theorem of_offers (h : Undisturbed own s t) {r r' : InMemoryTransferSourceRegistry}
    (hs : s'.localSide = { s.localSide with sourceRegistry := r })
    (ht : t'.localSide = { t.localSide with sourceRegistry := r' })
    (hoffers : SameOffers own r r') : Undisturbed own s' t' := by
  simp only [localSide, LocalSide.mk.injEq] at hs ht
  obtain ⟨hsdeps, hsruntime, hsstate, hslocal, rfl⟩ := hs
  obtain ⟨htdeps, htruntime, htstate, htlocal, rfl⟩ := ht
  refine ⟨?_, ?_, ?_, ?_, ?_, hoffers⟩
  · rw [hsdeps, htdeps, h.dependencies_eq]
  · rw [hsruntime, htruntime, h.runtime_eq]
  · rw [hsstate, htstate, h.state_eq]
  · rw [hslocal, htlocal, h.localBundle_eq]
  · rw [hslocal]
    exact h.localOwn

theorem of_localSide (h : Undisturbed own s t) (hs : s'.localSide = s.localSide)
    (ht : t'.localSide = t.localSide) : Undisturbed own s' t' :=
  h.of_offers hs ht h.offers

theorem policy_eq (h : Undisturbed own s t) : s.policy = t.policy :=
  congrArg (·.policy) h.dependencies_eq

/-! ### Format lists -/

variable {surroundings : Surroundings} {list : FdclFormatList}

theorem inert_offeredBundle (m : ClipboardModule) (list : FdclFormatList) :
    Inert { bundle := m.offeredBundle list } :=
  inert_remote _ _

/-- **Both take a list, or none does.** -/
theorem handleFormatList (h : Undisturbed own s t) :
    Undisturbed own (s.handleFormatList surroundings list)
      (t.handleFormatList surroundings list) := by
  have hreceive : t.mayReceive list = s.mayReceive list := by
    rw [mayReceive, mayReceive, h.policy_eq]
  have hloops : t.loops list = s.loops list := by
    rw [loops, loops, h.runtime_eq]
  have hbundle : t.offeredBundle list = s.offeredBundle list := by
    rw [offeredBundle, offeredBundle, h.policy_eq]
  have hendpoint : t.dependencies.endpoint = s.dependencies.endpoint := by
    rw [h.dependencies_eq]
  have hstored := h.offers.store_inert (inert_offeredBundle s list)
  have hstatus := h.offers.status_store (s.offeredBundle list)
  unfold ClipboardModule.handleFormatList
  simp only [hreceive, hloops, hbundle, hendpoint, ← h.policy_eq, ← hstatus]
  by_cases hdenied : s.mayReceive list = false
  · rwa [if_pos hdenied, if_pos hdenied]
  rw [if_neg hdenied, if_neg hdenied]
  by_cases hloop : s.loops list = true
  · rwa [if_pos hloop, if_pos hloop]
  rw [if_neg hloop, if_neg hloop]
  by_cases hempty : (filterFormatsByPolicy s.policy list).formats = []
  · rwa [if_pos hempty, if_pos hempty]
  rw [if_neg hempty, if_neg hempty]
  by_cases hrefused : (s.sourceRegistry.store (s.offeredBundle list)).1 ≠ .ok
  · rw [if_pos hrefused, if_pos hrefused]
    exact h.of_offers rfl rfl hstored
  rw [if_neg hrefused, if_neg hrefused]
  by_cases hunpublished : s.dependencies.endpoint ∧ surroundings.published ≠ .ok
  · rw [if_pos hunpublished, if_pos hunpublished]
    exact h.of_offers rfl rfl (hstored.clearOffer _)
  · rw [if_neg hunpublished, if_neg hunpublished]
    exact h.of_offers rfl rfl hstored

/-- **A list under an id of its own disturbs nothing.** -/
theorem handleFormatList_foreign (h : Undisturbed own s t) (hforeign : list.offerId ∉ own) :
    Undisturbed own (s.handleFormatList surroundings list) t := by
  have hstored := h.offers.store_foreign (inert_offeredBundle s list) hforeign
  unfold ClipboardModule.handleFormatList
  split
  · exact h
  split
  · exact h
  split
  · exact h
  simp only
  split
  · exact h.of_offers rfl rfl hstored
  split
  · exact h.of_offers rfl rfl (hstored.clearOffer_foreign hforeign)
  · exact h.of_offers rfl rfl hstored

/-! ### Locks -/

theorem handleObjectLockRequest (h : Undisturbed own s t) (packet : PacketEnvelope)
    (request : FdclObjectLock) :
    Undisturbed own ((s.handleObjectLockRequest surroundings packet request).finish surroundings)
      ((t.handleObjectLockRequest surroundings packet request).finish surroundings) := by
  have hlocked := h.offers.lockObject surroundings.moment (makeTransferObjectLockRequest request)
  unfold ClipboardModule.handleObjectLockRequest
  simp only [← h.policy_eq]
  by_cases hdenied : s.policy.allowSendContent = false ∨ s.policy.allowFileContents = false
  · rw [if_pos hdenied, if_pos hdenied]
    exact h.of_localSide rfl rfl
  · rw [if_neg hdenied, if_neg hdenied]
    refine h.of_offers ?_ ?_ hlocked
    · exact (leaves_sendObjectLockResponse _ packet (fun _ _ => rfl) _ _ _).finish surroundings
    · exact (leaves_sendObjectLockResponse _ packet (fun _ _ => rfl) _ _ _).finish surroundings

theorem handleObjectUnlockRequest (h : Undisturbed own s t) (packet : PacketEnvelope)
    (request : FdclObjectLock) :
    Undisturbed own ((s.handleObjectUnlockRequest packet request).finish surroundings)
      ((t.handleObjectUnlockRequest packet request).finish surroundings) := by
  have hunlocked := h.offers.unlockObject (makeTransferObjectLockRequest request)
  unfold ClipboardModule.handleObjectUnlockRequest
  simp only [← h.policy_eq]
  by_cases hdenied : s.policy.allowSendContent = false ∨ s.policy.allowFileContents = false
  · rw [if_pos hdenied, if_pos hdenied]
    exact h.of_localSide rfl rfl
  · rw [if_neg hdenied, if_neg hdenied]
    refine h.of_offers ?_ ?_ hunlocked
    · exact (leaves_sendObjectLockResponse _ packet (fun _ _ => rfl) _ _ _).finish surroundings
    · exact (leaves_sendObjectLockResponse _ packet (fun _ _ => rfl) _ _ _).finish surroundings

/-! ### Announcements -/

/-- Own offers that are not the local bundle's and have no entry are given up. -/
theorem prune (h : Undisturbed own s t) {kept : List TransferOfferId} (hkept : kept ⊆ own)
    (hlocal : s.localBundle.offerId ∈ kept)
    (hheld : ∀ entry ∈ s.sourceRegistry.entries, entry.bundle.offerId ∈ own →
      entry.bundle.offerId ∈ kept) : Undisturbed kept s t :=
  ⟨h.dependencies_eq, h.runtime_eq, h.state_eq, h.localBundle_eq, hlocal,
    h.offers.prune hkept hheld⟩

/-- **Both announce a bundle, or none does**; the offer of an announced bundle is an own one from
then on. -/
theorem announceLocalBundle (h : Undisturbed own s t) (surroundings : Surroundings)
    (bundle : TransferSourceBundle) :
    ∃ own', own ⊆ own' ∧
      own' ⊆ ((s.announceLocalBundle surroundings bundle).finish surroundings).localBundle.offerId
        :: own ∧
      Undisturbed own' ((s.announceLocalBundle surroundings bundle).finish surroundings)
        ((t.announceLocalBundle surroundings bundle).finish surroundings) := by
  have hform : t.announcedForm bundle = s.announcedForm bundle := by
    rw [announcedForm, announcedForm, h.policy_eq, h.runtime_eq]
  have hreaches : t.reachesRegistry surroundings bundle = s.reachesRegistry surroundings bundle := by
    rw [reachesRegistry, reachesRegistry, mayAnnounce, mayAnnounce, announcedList, announcedList,
      hform, h.policy_eq, h.state_eq]
  have hstatus := h.offers.status_store (s.announcedForm bundle)
  have hsame : ∀ s' t', Undisturbed own s' t' →
      ∃ own', own ⊆ own' ∧ own' ⊆ s'.localBundle.offerId :: own ∧ Undisturbed own' s' t' :=
    fun s' t' h' => ⟨own, List.Subset.refl _, List.subset_cons_self _ _, h'⟩
  cases hreached : s.reachesRegistry surroundings bundle with
  | false =>
    rw [announceLocalBundle_of_not_reaches hreached,
      announceLocalBundle_of_not_reaches (hreaches.trans hreached)]
    exact hsame _ _ h
  | true =>
    by_cases hok : (s.sourceRegistry.store (s.announcedForm bundle)).1 = .ok
    · have hstored := h.offers.store hok
      have hnetwork : t.runtime.network = s.runtime.network := by rw [h.runtime_eq]
      rw [announceLocalBundle_of_stored hreached hok,
        announceLocalBundle_of_stored (hreaches.trans hreached)
          (hform ▸ hstatus.symm.trans hok), hform]
      simp only [Call.finish, Call.returning, Call.sends, hnetwork]
      cases s.runtime.network && surroundings.sent with
      | true =>
        refine ⟨(s.announcedForm bundle).offerId :: own, List.subset_cons_self _ _,
          List.Subset.refl _, ?_⟩
        exact ⟨h.dependencies_eq, h.runtime_eq, h.state_eq, rfl, List.mem_cons_self, hstored⟩
      | false =>
        refine hsame _ _ (h.of_offers rfl rfl ?_)
        refine (hstored.clearOffer _).prune (List.subset_cons_self _ _) fun entry hentry hown => ?_
        exact (List.mem_cons.mp hown).resolve_left (ne_of_mem_store_clearOffer hok hentry)
    · rw [announceLocalBundle_of_refused hreached hok,
        announceLocalBundle_of_refused (hreaches.trans hreached)
          (hform ▸ fun hok' => hok (hstatus.trans hok')), hform]
      exact hsame _ _ (h.of_offers rfl rfl (h.offers.store_refused hok))

/-! ### Steps -/

theorem pauseForReconnect (h : Undisturbed own s t) (options : ModuleReconnectOptions) :
    Undisturbed own (s.pauseForReconnect options) (t.pauseForReconnect options) := by
  unfold ClipboardModule.pauseForReconnect
  by_cases hother : affectsClipboardChannel options = false
  · rwa [if_pos hother, if_pos hother]
  rw [if_neg hother, if_neg hother]
  have hsettled : ∀ m : ClipboardModule,
      (m.releaseAllLargeDataReservations.settleAll
        (m.releaseAllLargeDataReservations.readRequests.cancelByChannel
          clipboardSmallDataChannelKey.channelId clipboardSmallDataChannelKey.channelType
          .channelUnavailable)).localSide = m.localSide := fun m =>
    settleAll_eq _ (fun _ _ _ _ _ _ _ _ _ => rfl) _
  have h' := h.of_localSide (hsettled s) (hsettled t)
  exact h'.of_offers rfl rfl h'.offers.clearAll

/-- **Both do the same to a packet about offers.** -/
theorem handlePacket (h : Undisturbed own s t) {packet : PacketEnvelope}
    (hoffers : (received packet).aboutOffers = true) :
    Undisturbed own ((s.handlePacket surroundings packet).finish surroundings)
      ((t.handlePacket surroundings packet).finish surroundings) := by
  by_cases hrunning : s.state = .running
  · rw [handlePacket_eq s surroundings packet hrunning,
      handlePacket_eq t surroundings packet (h.state_eq ▸ hrunning)]
    cases hasked : received packet with
    | formatList list => exact h.handleFormatList
    | lockObject request => exact h.handleObjectLockRequest packet request
    | unlockObject request => exact h.handleObjectUnlockRequest packet request
    | _ => simp [hasked, Received.aboutOffers] at hoffers
  · rw [handlePacket_of_not_running s surroundings packet hrunning,
      handlePacket_of_not_running t surroundings packet fun ht => hrunning (h.state_eq.trans ht)]
    exact h

/-- Both do the same to a call, with the offer of an announced bundle among the own ones. -/
theorem perform (h : Undisturbed own s t) (op : ClipboardOp) (surroundings : Surroundings) :
    ∃ own', own ⊆ own' ∧
      own' ⊆ ((s.perform surroundings op).finish surroundings).localBundle.offerId :: own ∧
      Undisturbed own' ((s.perform surroundings op).finish surroundings)
        ((t.perform surroundings op).finish surroundings) := by
  have hsame : ∀ {s' t'}, Undisturbed own s' t' →
      ∃ own', own ⊆ own' ∧ own' ⊆ s'.localBundle.offerId :: own ∧ Undisturbed own' s' t' :=
    fun h' => ⟨own, List.Subset.refl _, List.subset_cons_self _ _, h'⟩
  cases hoffers : op.aboutOffers with
  | false =>
    exact hsame (h.of_localSide ((s.leaves_localSide surroundings hoffers).finish surroundings)
      ((t.leaves_localSide surroundings hoffers).finish surroundings))
  | true =>
    cases op with
    | attach runtime =>
      exact hsame ⟨h.dependencies_eq, rfl, rfl, h.localBundle_eq, h.localOwn, h.offers⟩
    | start =>
      have hnetwork : t.runtime.network = s.runtime.network := by rw [h.runtime_eq]
      refine hsame ?_
      simp only [ClipboardModule.perform, start, hnetwork, Call.finish, Call.silent]
      split
      · exact ⟨h.dependencies_eq, h.runtime_eq, rfl, h.localBundle_eq, h.localOwn, h.offers⟩
      · exact ⟨h.dependencies_eq, h.runtime_eq, rfl, h.localBundle_eq, h.localOwn, h.offers⟩
    | stop =>
      exact hsame
        ⟨h.dependencies_eq, h.runtime_eq, rfl, h.localBundle_eq, h.localOwn, h.offers.clearAll⟩
    | detach =>
      exact hsame
        ⟨h.dependencies_eq, h.runtime_eq, rfl, h.localBundle_eq, h.localOwn, h.offers.clearAll⟩
    | pauseForReconnect options => exact hsame (h.pauseForReconnect options)
    | resumeAfterReconnect options =>
      simp only [ClipboardModule.perform, resumeAfterReconnect, ← h.state_eq, ← h.localBundle_eq]
      split
      · exact h.announceLocalBundle surroundings s.localBundle
      · exact hsame h
    | handlePacket packet => exact hsame (h.handlePacket hoffers)
    | announceLocalBundle bundle => exact h.announceLocalBundle surroundings bundle
    | _ => cases hoffers

end Undisturbed

/-! ## Histories -/

/-- The own offers behind a call: the local bundle's, and of those before the ones that have an
entry still. -/
def ownAfter (own : List TransferOfferId) (m : ClipboardModule) : List TransferOfferId :=
  m.localBundle.offerId :: own.filter fun offerId =>
    m.sourceRegistry.entries.any fun entry => entry.bundle.offerId == offerId

/-- **One call keeps two modules undisturbed.** -/
theorem Undisturbed.step {own : List TransferOfferId} {s t : ClipboardModule}
    (h : Undisturbed own s t) (op : ClipboardOp × Surroundings) :
    Undisturbed (ownAfter own (s.step op)) (s.step op) (t.step op) := by
  obtain ⟨own', hown, hown', hnext⟩ := h.perform op.1 op.2
  refine hnext.prune ?_ List.mem_cons_self ?_
  · intro offerId hmem
    rcases List.mem_cons.mp hmem with rfl | hold
    · exact hnext.localOwn
    · exact hown (List.mem_filter.mp hold).1
  · intro entry hentry hmem
    refine List.mem_cons.mpr ((List.mem_cons.mp (hown' hmem)).imp id fun hold => ?_)
    exact List.mem_filter.mpr ⟨hold, List.any_eq_true.mpr ⟨entry, hentry, beq_self_eq_true _⟩⟩

/-- A module with the offers of its own: the local bundle's, and those it has announced that have an
entry still. -/
structure OfferHistory where
  current : ClipboardModule
  announced : List TransferOfferId

namespace OfferHistory

/-- A module as it is built; its local bundle has the id zero. -/
def start (dependencies : ClipboardModuleDependencies)
    (largeDataWindow : Option ClipboardLargeDataWindow) : OfferHistory where
  current := ClipboardModule.construct dependencies largeDataWindow
  announced := [0]

def step (history : OfferHistory) (op : ClipboardOp × Surroundings) : OfferHistory where
  current := history.current.step op
  announced := ownAfter history.announced (history.current.step op)

/-- The history next to a second module. -/
theorem undisturbed_run {history : OfferHistory} {t : ClipboardModule}
    (h : Undisturbed history.announced history.current t) (ops : List (ClipboardOp × Surroundings)) :
    Undisturbed (Runs.run step history ops).announced (Runs.run step history ops).current
      (Runs.run ClipboardModule.step t ops) := by
  induction ops generalizing history t with
  | nil => exact h
  | cons op ops ih => exact ih (h.step op)

theorem current_run (history : OfferHistory) (ops : List (ClipboardOp × Surroundings)) :
    (Runs.run step history ops).current = Runs.run ClipboardModule.step history.current ops := by
  induction ops generalizing history with
  | nil => rfl
  | cons op ops ih => exact ih (history.step op)

/-- **In every run the offers of the peer are inert**, and the registry is sound. -/
theorem undisturbed_self (dependencies : ClipboardModuleDependencies)
    (largeDataWindow : Option ClipboardLargeDataWindow) (ops : List (ClipboardOp × Surroundings)) :
    Undisturbed (Runs.run step (start dependencies largeDataWindow) ops).announced
      (Runs.run step (start dependencies largeDataWindow) ops).current
      (Runs.run step (start dependencies largeDataWindow) ops).current := by
  rw [current_run]
  have hempty : ForeignInert [0] {} := fun _ hentry => nomatch hentry
  have hstart : Undisturbed [0] (start dependencies largeDataWindow).current
      (start dependencies largeDataWindow).current :=
    ⟨rfl, rfl, rfl, rfl, List.mem_cons_self, rfl, offersSound_empty, offersSound_empty, hempty,
      hempty⟩
  have hrun := @undisturbed_run (start dependencies largeDataWindow) _ hstart ops
  rwa [current_run] at hrun

end OfferHistory

end Clipboard
end FusionDesk
