import FusionDesk.Clipboard.OfferRestriction

/-!
# Bundles that are refused

`store` retires the entry of the offer, and only then finds out that its locks block the bundle.  So
a bundle that is refused over a locked entry leaves the entry retired: it takes no lock any more.  A
bundle that is taken without an owner epoch is not found by any lookup, for these ask for one.

* `Accepts`: the bundle is the one of its offer, and takes lookups and locks.
* `Indistinct`: two registries of which no later calls tell which is which.
* `store_atomic_iff`: a call of `store` is one or the other, and when.
-/

namespace FusionDesk
namespace Clipboard

open Protocol FirstMatch

namespace InMemoryTransferSourceRegistry

variable {registry : InMemoryTransferSourceRegistry} {bundle : TransferSourceBundle}

/-- The registry after a call. -/
def after (registry : InMemoryTransferSourceRegistry) :
    TransferRegistryOp → InMemoryTransferSourceRegistry
  | .store bundle => (registry.store bundle).2
  | .clearOffer offerId => (registry.clearOffer offerId).2
  | .clearAll => registry.clearAll.2
  | .releaseAllLocks => registry.releaseAllLocks.2
  | .lockObject now request => (registry.lockObject now request).2
  | .unlockObject request => (registry.unlockObject request).2

theorem OffersSound.after (h : OffersSound registry) (op : TransferRegistryOp) :
    OffersSound (registry.after op) := by
  cases op with
  | store bundle => exact h.store bundle
  | clearOffer offerId => exact h.clearOffer offerId
  | clearAll => exact h.clearAll
  | releaseAllLocks => exact h.releaseAllLocks
  | lockObject now request => exact h.lockObject now request
  | unlockObject request => exact h.unlockObject request

/-! ## What a call of `store` is to be -/

/-- Every lookup under the identity of the bundle is answered from it, and every lock under this
identity is granted that its source grants. -/
structure Accepts (registry : InMemoryTransferSourceRegistry) (bundle : TransferSourceBundle) :
    Prop where
  found : registry.findBundle bundle.offerId = some bundle
  lookups : ∀ request : TransferReadRequest, request.bundleId = bundle.bundleId →
    request.offerId = bundle.offerId → request.ownerEpoch = bundle.ownerEpoch →
    registry.lookupSource request =
      match bundle.findSource request.sourceId with
      | some source => { status := .ok, bundle := bundle, source := some source }
      | none => { status := .notFound, message := bytesOf "transfer source is not found" }
  locks : ∀ (now : Moment) (request : TransferObjectLockRequest),
    request.bundleId = bundle.bundleId → request.offerId = bundle.offerId →
    request.ownerEpoch = bundle.ownerEpoch → request.sourceId ≠ 0 → request.objectId ≠ 0 →
    ∀ source, bundle.findSource request.sourceId = some source →
    (validateFileObjectForLock now source request).ok = true →
    (registry.lockObject now request).1.ok = true

/-- What a lookup, a lock and an unlock are answered is the same. -/
structure AnswersAlike (r r' : InMemoryTransferSourceRegistry) : Prop where
  lookups : ∀ request, r.lookupSource request = r'.lookupSource request
  locks : ∀ now request, (r.lockObject now request).1 = (r'.lockObject now request).1
  unlocks : ∀ request, (r.unlockObject request).1 = (r'.unlockObject request).1

/-- After any later calls, every lookup, lock and unlock is answered the same. -/
def Indistinct (r r' : InMemoryTransferSourceRegistry) : Prop :=
  ∀ later : List TransferRegistryOp,
    AnswersAlike (Runs.run InMemoryTransferSourceRegistry.after r later)
      (Runs.run InMemoryTransferSourceRegistry.after r' later)

theorem Indistinct.refl (registry : InMemoryTransferSourceRegistry) :
    Indistinct registry registry :=
  fun _ => ⟨fun _ => rfl, fun _ _ => rfl, fun _ => rfl⟩

/-- **The bundle is taken, or it is as if the call had not been made.** -/
def StoresAtomically (registry : InMemoryTransferSourceRegistry) (bundle : TransferSourceBundle) :
    Prop :=
  ((registry.store bundle).1 = .ok ∧ (registry.store bundle).2.Accepts bundle) ∨
    ((registry.store bundle).1 ≠ .ok ∧ registry.Indistinct (registry.store bundle).2)

/-- The bundle has no id, or its offer is retired already, or it has an owner epoch and its offer
has no lock. -/
def Replaceable (registry : InMemoryTransferSourceRegistry) (bundle : TransferSourceBundle) :
    Prop :=
  storable bundle = false ∨
    (∃ entry ∈ registry.entries, entry.bundle.offerId = bundle.offerId ∧ entry.retired = true) ∨
    (bundle.ownerEpoch ≠ 0 ∧
      ∀ entry ∈ registry.entries, entry.bundle.offerId = bundle.offerId → entry.locks = [])

/-! ## Refused -/

/-- An offer that is retired already is cleared by nothing but its unlocks. -/
theorem clearOffer_of_retired (hsound : OffersSound registry) {entry : RegistryEntry}
    (hentry : entry ∈ registry.entries) (hretired : entry.retired = true) :
    (registry.clearOffer entry.bundle.offerId).2 = registry := by
  have hsame : ∀ other ∈ registry.entries, retire entry.bundle.offerId other = other := by
    intro other hother
    by_cases heq : other.bundle.offerId = entry.bundle.offerId
    · obtain rfl : other = entry := List.inj_on_of_nodup_map hsound.nodup hother hentry heq
      rw [retire, if_pos rfl, ← hretired]
    · rw [retire, if_neg heq]
  have hkept : ∀ other ∈ registry.entries, (!(other.retired && other.locks.isEmpty)) = true := by
    intro other hother
    cases hgone : other.retired with
    | false => rfl
    | true =>
      have hlocked := hsound.retired_locked other hother hgone
      simpa using hlocked
  ext : 1
  · show (registry.entries.map (retire entry.bundle.offerId)).filter _ = _
    rw [List.map_congr_left hsame, List.map_id', List.filter_eq_self.mpr hkept]
  · rfl

theorem store_of_retired (hsound : OffersSound registry) (hstorable : storable bundle = true)
    {entry : RegistryEntry} (hentry : entry ∈ registry.entries)
    (hoffer : entry.bundle.offerId = bundle.offerId) (hretired : entry.retired = true) :
    registry.store bundle = (.conflict, registry) := by
  have hcleared : (registry.clearOffer bundle.offerId).2 = registry :=
    hoffer ▸ clearOffer_of_retired hsound hentry hretired
  have hblocked : (registry.entries.any fun entry => entry.bundle.offerId == bundle.offerId) =
      true :=
    List.any_eq_true.mpr ⟨entry, hentry, beq_iff_eq.mpr hoffer⟩
  rw [store_of_storable hstorable]
  simp only [hcleared, hblocked, if_true]

/-- An entry that is locked blocks the bundle, and is retired. -/
theorem store_of_locked (hsound : OffersSound registry) (hstorable : storable bundle = true)
    {entry : RegistryEntry} (hentry : entry ∈ registry.entries)
    (hoffer : entry.bundle.offerId = bundle.offerId) (hlocks : entry.locks ≠ []) :
    (registry.store bundle).1 = .conflict ∧ OffersSound (registry.store bundle).2 ∧
      { entry with retired := true } ∈ (registry.store bundle).2.entries := by
  have hmem : { entry with retired := true } ∈
      (registry.clearOffer bundle.offerId).2.entries := by
    refine mem_clearOffer.mpr ⟨⟨entry, hentry, by rw [retire, if_pos hoffer]⟩, ?_⟩
    simpa using hlocks
  have hblocked : ((registry.clearOffer bundle.offerId).2.entries.any
      fun entry => entry.bundle.offerId == bundle.offerId) = true :=
    List.any_eq_true.mpr ⟨_, hmem, beq_iff_eq.mpr hoffer⟩
  refine ⟨?_, hsound.store bundle, ?_⟩
  · rw [store_of_storable hstorable]
    simp only [hblocked, if_true]
  · rw [store_of_storable hstorable]
    simp only [hblocked, if_true]
    exact hmem

/-- What a lock under a wrong owner epoch is told at an entry of its offer. -/
theorem message_of_staleLock (hsound : OffersSound registry) {entry : RegistryEntry}
    (hentry : entry ∈ registry.entries) {request : TransferObjectLockRequest}
    (hvalid : identityValid request = true) (hoffer : entry.bundle.offerId = request.offerId)
    (hepoch : entry.bundle.ownerEpoch ≠ request.ownerEpoch) (now : Moment) :
    (registry.lockObject now request).1.message =
      if entry.retired then bytesOf "transfer object lock offer is retired"
      else bytesOf "transfer object lock offer is stale" := by
  have hguard : ¬(request.bundleId = 0 ∨ request.offerId = 0 ∨ request.ownerEpoch = 0 ∨
      request.sourceId = 0 ∨ request.objectId = 0) := by
    simpa [identityValid, not_or, and_assoc] using hvalid
  obtain ⟨found, hfind, hsame⟩ : ∃ found,
      registry.entries.find? (fun entry => entry.bundle.offerId == request.offerId) = some found ∧
        found = entry := by
    cases hfind : registry.entries.find? fun entry => entry.bundle.offerId == request.offerId with
    | none =>
      have hnone := List.find?_eq_none.mp hfind entry hentry
      exact absurd (beq_iff_eq.mpr hoffer) hnone
    | some found =>
      have hfound : found.bundle.offerId = request.offerId := by
        have hsome := List.find?_some hfind
        exact eq_of_beq hsome
      exact ⟨found, rfl, List.inj_on_of_nodup_map hsound.nodup
        (List.mem_of_find?_eq_some hfind) hentry (hfound.trans hoffer.symm)⟩
  subst hsame
  obtain ⟨before, behind, -, -, -, hupdate⟩ :=
    exists_split_of_find? (f := registry.lockEntry now request) hfind
  rw [lockObject, if_neg hguard, hupdate]
  cases hretired : found.retired with
  | true => simp only [lockEntry, hretired, if_true, objectLockError]
  | false =>
    simp only [lockEntry, hretired, if_pos (Or.inr hepoch : _ ∨ _), Bool.false_eq_true, if_false,
      objectLockError]

/-- **An entry that is retired by a refused bundle can be told from what it was.** -/
theorem not_indistinct_of_retired (hsound : OffersSound registry)
    {registry' : InMemoryTransferSourceRegistry} (hsound' : OffersSound registry')
    {entry : RegistryEntry} (hentry : entry ∈ registry.entries) (hlive : entry.retired = false)
    (hoffer : entry.bundle.offerId ≠ 0)
    (hretired : { entry with retired := true } ∈ registry'.entries) :
    ¬Indistinct registry registry' := by
  intro hsame
  -- a lock that is refused by either, with two different messages
  let request : TransferObjectLockRequest := {
    bundleId := 1
    offerId := entry.bundle.offerId
    ownerEpoch := if entry.bundle.ownerEpoch = 1 then 2 else 1
    sourceId := 1
    objectId := 1 }
  have hepochs : entry.bundle.ownerEpoch ≠ request.ownerEpoch ∧ request.ownerEpoch ≠ 0 := by
    show entry.bundle.ownerEpoch ≠ (if entry.bundle.ownerEpoch = 1 then 2 else 1) ∧
      (if entry.bundle.ownerEpoch = 1 then (2 : UInt64) else 1) ≠ 0
    by_cases hone : entry.bundle.ownerEpoch = 1
    · rw [if_pos hone, hone]
      decide
    · rw [if_neg hone]
      exact ⟨hone, by decide⟩
  have hvalid : identityValid request = true := by
    have hoffer' : (request.offerId == 0) = false := beq_eq_false_iff_ne.mpr hoffer
    have hepoch' : (request.ownerEpoch == 0) = false := beq_eq_false_iff_ne.mpr hepochs.2
    rw [identityValid, hoffer', hepoch']
    rfl
  have hbefore := message_of_staleLock hsound hentry hvalid rfl hepochs.1 0
  have hafter := message_of_staleLock hsound' hretired hvalid rfl hepochs.1 0
  have hanswers : (registry.lockObject 0 request).1 = (registry'.lockObject 0 request).1 :=
    (hsame []).locks 0 request
  rw [hanswers, hafter, hlive] at hbefore
  exact absurd hbefore (show bytesOf "transfer object lock offer is retired" ≠
    bytesOf "transfer object lock offer is stale" by decide)

/-! ## Taken -/

/-- Over an offer without a lock the bundle is taken. -/
theorem store_of_unlocked (hstorable : storable bundle = true)
    (hlocks : ∀ entry ∈ registry.entries, entry.bundle.offerId = bundle.offerId →
      entry.locks = []) :
    (registry.store bundle).1 = .ok ∧
      ({ bundle := bundle } : RegistryEntry) ∈ (registry.store bundle).2.entries := by
  have hfree : ¬((registry.clearOffer bundle.offerId).2.entries.any
      fun entry => entry.bundle.offerId == bundle.offerId) = true := by
    intro hblocked
    obtain ⟨entry, hentry, hoffer⟩ := List.any_eq_true.mp hblocked
    exact ne_of_mem_clearOffer hlocks hentry (eq_of_beq hoffer)
  have hstore : registry.store bundle = (.ok, { (registry.clearOffer bundle.offerId).2 with
      entries := (registry.clearOffer bundle.offerId).2.entries ++ [{ bundle := bundle }] }) := by
    rw [store_of_storable hstorable]
    simp only [if_neg hfree]
  rw [hstore]
  exact ⟨rfl, List.mem_append_right _ (List.mem_singleton_self _)⟩

/-- **A bundle with an owner epoch, in an entry of its own, takes lookups and locks.** -/
theorem accepts_of_mem (hsound : OffersSound registry) (hstorable : storable bundle = true)
    (hepoch : bundle.ownerEpoch ≠ 0)
    (hentry : ({ bundle := bundle } : RegistryEntry) ∈ registry.entries) :
    registry.Accepts bundle := by
  have hids : bundle.bundleId ≠ 0 ∧ bundle.offerId ≠ 0 := by
    simpa [storable] using hstorable
  have hfound : registry.findBundle bundle.offerId = some bundle :=
    findBundle_of_mem hsound hentry
  refine ⟨hfound, ?_, ?_⟩
  · intro request hbundle hoffer hrequestEpoch
    have hguard : ¬(request.bundleId = 0 ∨ request.offerId = 0 ∨ request.ownerEpoch = 0) := by
      rw [hbundle, hoffer, hrequestEpoch]
      simp [hids, hepoch]
    have hcurrent : ¬(bundle.bundleId ≠ request.bundleId ∨
        bundle.ownerEpoch ≠ request.ownerEpoch) := by
      simp [hbundle, hrequestEpoch]
    rw [lookupSource, if_neg hguard, hoffer, hfound]
    dsimp only
    cases bundle.findSource request.sourceId with
    | none => exact if_neg hcurrent
    | some source => exact if_neg hcurrent
  · intro now request hbundle hoffer hrequestEpoch hsourceId hobjectId source hsource hvalid
    have hidentity : identityValid request = true := by
      simp [identityValid, hbundle, hoffer, hrequestEpoch, hids, hepoch, hsourceId, hobjectId]
    refine lockObject_ok_of_takesLock hsound hidentity hentry hoffer.symm ?_
    simp [takesLock, hbundle, hrequestEpoch, hsource, hvalid]

/-- Without an owner epoch no lookup is answered from a bundle. -/
theorem not_accepts_of_epoch (hepoch : bundle.ownerEpoch = 0) : ¬registry.Accepts bundle := by
  intro haccepts
  have hlookup := haccepts.lookups
    { bundleId := bundle.bundleId, offerId := bundle.offerId, ownerEpoch := bundle.ownerEpoch }
    rfl rfl rfl
  have hstatus := congrArg TransferSourceLookup.status hlookup
  rw [lookupSource, if_pos (Or.inr (Or.inr hepoch))] at hstatus
  split at hstatus
  · cases hstatus
  · cases hstatus

/-! ## Runs -/

theorem storesAtomically_iff (hsound : OffersSound registry) (bundle : TransferSourceBundle) :
    StoresAtomically registry bundle ↔ Replaceable registry bundle := by
  cases hstorable : storable bundle with
  | false =>
    have hstore := @store_of_not_storable registry bundle hstorable
    refine ⟨fun _ => Or.inl hstorable, fun _ => Or.inr ?_⟩
    rw [hstore]
    exact ⟨(fun hok => by cases hok), Indistinct.refl registry⟩
  | true =>
  have hids : bundle.bundleId ≠ 0 ∧ bundle.offerId ≠ 0 := by
    simpa [storable] using hstorable
  by_cases hretired : ∃ entry ∈ registry.entries,
      entry.bundle.offerId = bundle.offerId ∧ entry.retired = true
  · refine ⟨fun _ => Or.inr (Or.inl hretired), fun _ => Or.inr ?_⟩
    obtain ⟨entry, hentry, hoffer, hgone⟩ := hretired
    rw [store_of_retired hsound hstorable hentry hoffer hgone]
    exact ⟨(fun hok => by cases hok), Indistinct.refl registry⟩
  by_cases hlocked : ∃ entry ∈ registry.entries,
      entry.bundle.offerId = bundle.offerId ∧ entry.locks ≠ []
  · obtain ⟨entry, hentry, hoffer, hlocks⟩ := hlocked
    have hlive : entry.retired = false := by
      by_contra hgone
      exact hretired ⟨entry, hentry, hoffer, Bool.eq_true_of_not_eq_false hgone⟩
    obtain ⟨hconflict, hsound', hmem⟩ := store_of_locked hsound hstorable hentry hoffer hlocks
    constructor
    · rintro (⟨hok, -⟩ | ⟨-, hsame⟩)
      · rw [hconflict] at hok
        cases hok
      · exact absurd hsame (not_indistinct_of_retired hsound hsound' hentry hlive
          (hoffer ▸ hids.2) hmem)
    · rintro (hinvalid | hgone | ⟨-, hunlocked⟩)
      · rw [hstorable] at hinvalid
        cases hinvalid
      · exact absurd hgone hretired
      · exact absurd (hunlocked entry hentry hoffer) hlocks
  · have hunlocked : ∀ entry ∈ registry.entries, entry.bundle.offerId = bundle.offerId →
        entry.locks = [] := by
      intro entry hentry hoffer
      by_contra hlocks
      exact hlocked ⟨entry, hentry, hoffer, hlocks⟩
    obtain ⟨hok, hmem⟩ := store_of_unlocked hstorable hunlocked
    constructor
    · rintro (⟨-, haccepts⟩ | ⟨hrefused, -⟩)
      · refine Or.inr (Or.inr ⟨fun hepoch => ?_, hunlocked⟩)
        exact not_accepts_of_epoch hepoch haccepts
      · exact absurd hok hrefused
    · rintro (hinvalid | hgone | ⟨hepoch, -⟩)
      · rw [hstorable] at hinvalid
        cases hinvalid
      · exact absurd hgone hretired
      · exact Or.inl ⟨hok, accepts_of_mem (hsound.store bundle) hstorable hepoch hmem⟩

/-- **In every reachable registry, a call of `store` is atomic if and only if the bundle has no id,
its offer is retired already, or it has an owner epoch and its offer holds no lock.** -/
theorem store_atomic_iff (ops : List TransferRegistryOp) (bundle : TransferSourceBundle) :
    StoresAtomically (Runs.run InMemoryTransferSourceRegistry.after {} ops) bundle ↔
      Replaceable (Runs.run InMemoryTransferSourceRegistry.after {} ops) bundle :=
  storesAtomically_iff
    (Runs.run_invariant offersSound_empty (fun _ op h => OffersSound.after h op) ops) bundle

/-- The file of the bundle is locked, and the bundle is stored again: it is refused, and the file
cannot be locked once more. -/
theorem not_storesAtomically_locked :
    ¬StoresAtomically (Runs.run InMemoryTransferSourceRegistry.after {}
      [.store oneFileBundle, .lockObject 0 (oneFileLock 0)]) oneFileBundle := by
  rintro (⟨hok, -⟩ | ⟨-, hsame⟩)
  · exact absurd hok (by decide)
  · have hlock := congrArg TransferObjectLockResult.status ((hsame []).locks 0 (oneFileLock 0))
    exact absurd hlock (by decide)

end InMemoryTransferSourceRegistry

end Clipboard
end FusionDesk
