import FusionDesk.Clipboard.TransferRegistry
import FusionDesk.General.Runs
import Mathlib.Algebra.BigOperators.Group.List.Basic
import Mathlib.Data.List.Nodup

/-!
# Runs of the transfer source registry

The six calls that change a registry, in any order and with any arguments.

A lock can be named by the peer or by the registry.  An id that comes with a request is compared
with the ids of the entry, and an active one is refused; the id that the registry takes from its
counter is not compared.  A peer that has named a lock `1` therefore shares the id with the first
lock the registry names itself.

* `lockObject_cases`, `unlockObject_cases`: a call that fails changes nothing; a call that succeeds
  changes one entry, by one lock.
* `OffersSound`: what holds in every run, whatever the ids are.
* `callSound_iff`: from a state with distinct ids, a call is sound exactly if it does not take an
  active id from the counter.
* `transferRegistry_sound_iff`: what this comes to over a run.
-/

namespace FusionDesk
namespace Clipboard

open Protocol FirstMatch

namespace InMemoryTransferSourceRegistry

/-! ## What locking and unlocking can come to -/

/-- The first question of `lockObject`. -/
def identityValid (request : TransferObjectLockRequest) : Bool :=
  !(request.bundleId == 0 || request.offerId == 0 || request.ownerEpoch == 0 ||
    request.sourceId == 0 || request.objectId == 0)

/-- The questions of `lockObject` at an entry of the offer. -/
def takesLock (now : Moment) (request : TransferObjectLockRequest) (entry : RegistryEntry) : Bool :=
  !entry.retired && entry.bundle.bundleId == request.bundleId &&
    entry.bundle.ownerEpoch == request.ownerEpoch &&
    !(entry.locks.any fun lock => request.lockId != 0 && lock.lockId == request.lockId) &&
    (entry.bundle.findSource request.sourceId).any fun source =>
      (validateFileObjectForLock now source request).ok

/-- The lock that a request comes to. -/
def grantedLock (registry : InMemoryTransferSourceRegistry) (request : TransferObjectLockRequest) :
    TransferObjectLockRequest :=
  if request.lockId = 0 then { request with lockId := registry.assignedLockId } else request

variable {registry : InMemoryTransferSourceRegistry} {now : Moment}
  {request : TransferObjectLockRequest} {entry : RegistryEntry}

theorem assignedLockId_ne_zero (registry : InMemoryTransferSourceRegistry) :
    registry.assignedLockId ≠ 0 := by
  unfold assignedLockId
  split
  · decide
  · assumption

theorem grantedLock_lockId_ne_zero : (grantedLock registry request).lockId ≠ 0 := by
  unfold grantedLock
  split
  · exact assignedLockId_ne_zero registry
  · assumption

theorem lockEntry_of_not_takesLock (h : takesLock now request entry = false) :
    ∃ result : TransferObjectLockResult,
      registry.lockEntry now request entry = ((result, registry.nextLockId), some entry) ∧
        result.ok = false := by
  by_cases hretired : entry.retired = true
  · exact ⟨objectLockError .conflict _, by simp only [lockEntry, if_pos hretired]; rfl, rfl⟩
  by_cases hstale : entry.bundle.bundleId ≠ request.bundleId ∨
      entry.bundle.ownerEpoch ≠ request.ownerEpoch
  · exact ⟨objectLockError .conflict _,
      by simp only [lockEntry, if_neg hretired, if_pos hstale]; rfl, rfl⟩
  by_cases hactive :
      (entry.locks.any fun lock => request.lockId != 0 && lock.lockId == request.lockId) = true
  · exact ⟨objectLockError .conflict _,
      by simp only [lockEntry, if_neg hretired, if_neg hstale, if_pos hactive]; rfl, rfl⟩
  cases hsource : entry.bundle.findSource request.sourceId with
  | none =>
    exact ⟨objectLockError .notFound _, by
      simp only [lockEntry, if_neg hretired, if_neg hstale, if_neg hactive, hsource]
      rfl, rfl⟩
  | some source =>
    have hinvalid : (validateFileObjectForLock now source request).ok = false := by
      simp only [takesLock, hsource, Option.any_some] at h
      rw [not_or, not_not, not_not] at hstale
      simpa [hretired, hstale.1, hstale.2, hactive] using h
    refine ⟨_, ?_, hinvalid⟩
    simp only [lockEntry, if_neg hretired, if_neg hstale, if_neg hactive, hsource, if_pos hinvalid]

theorem lockEntry_of_takesLock (h : takesLock now request entry = true) :
    ∃ (result : TransferObjectLockResult) (next : TransferObjectLockId), result.ok = true ∧
      result.lockId = (grantedLock registry request).lockId ∧
      registry.lockEntry now request entry = ((result, next),
        some { entry with locks := entry.locks ++ [grantedLock registry request] }) := by
  simp only [takesLock, Bool.and_eq_true, Bool.not_eq_true', beq_iff_eq, Option.any_eq_true] at h
  obtain ⟨⟨⟨⟨hretired, hbundle⟩, hepoch⟩, hactive⟩, source, hsource, hvalid⟩ := h
  have hlive : ¬entry.retired = true := by
    simp [hretired]
  have hfresh : ¬(entry.bundle.bundleId ≠ request.bundleId ∨
      entry.bundle.ownerEpoch ≠ request.ownerEpoch) := by
    simp [hbundle, hepoch]
  have hfree : ¬(entry.locks.any fun lock =>
      request.lockId != 0 && lock.lockId == request.lockId) = true := by
    simp [hactive]
  have hpassed : ¬(validateFileObjectForLock now source request).ok = false := by
    simp [hvalid]
  refine ⟨{ validateFileObjectForLock now source request with
      lockId := (grantedLock registry request).lockId
      leaseUsec := (grantedLock registry request).leaseUsec },
    if request.lockId = 0 then registry.assignedLockId + 1 else registry.nextLockId,
    hvalid, rfl, ?_⟩
  simp only [lockEntry, if_neg hlive, if_neg hfresh, if_neg hfree, hsource, if_neg hpassed,
    grantedLock]

/-- The outcome of a lock that is taken: the entry of the offer has one lock more. -/
structure Locked (registry : InMemoryTransferSourceRegistry) (now : Moment)
    (request : TransferObjectLockRequest) (before behind : List RegistryEntry)
    (entry : RegistryEntry) : Prop where
  valid : identityValid request = true
  entries_eq : registry.entries = before ++ entry :: behind
  before_ne : ∀ other ∈ before, other.bundle.offerId ≠ request.offerId
  offer_eq : entry.bundle.offerId = request.offerId
  takes : takesLock now request entry = true
  ok : (registry.lockObject now request).1.ok = true
  lockId_eq : (registry.lockObject now request).1.lockId = (grantedLock registry request).lockId
  after_eq : (registry.lockObject now request).2.entries =
    before ++ { entry with locks := entry.locks ++ [grantedLock registry request] } :: behind

/-- **A lock is refused and nothing changes, or it is taken.** -/
theorem lockObject_cases (registry : InMemoryTransferSourceRegistry) (now : Moment)
    (request : TransferObjectLockRequest) :
    ((registry.lockObject now request).1.ok = false ∧
        (registry.lockObject now request).2 = registry) ∨
      ∃ before behind entry, Locked registry now request before behind entry := by
  by_cases hvalid : identityValid request = true
  · have hguard : ¬(request.bundleId = 0 ∨ request.offerId = 0 ∨ request.ownerEpoch = 0 ∨
        request.sourceId = 0 ∨ request.objectId = 0) := by
      simpa [identityValid, not_or, and_assoc] using hvalid
    cases hfind : registry.entries.find? fun entry => entry.bundle.offerId == request.offerId with
    | none =>
      left
      rw [lockObject, if_neg hguard, updateFirst_of_none hfind]
      exact ⟨rfl, rfl⟩
    | some entry =>
      obtain ⟨before, behind, hentries, hbefore, hoffer, hupdate⟩ :=
        exists_split_of_find? (f := registry.lockEntry now request) hfind
      cases htakes : takesLock now request entry with
      | false =>
        left
        obtain ⟨result, hentry, hok⟩ :=
          @lockEntry_of_not_takesLock registry now request entry htakes
        rw [lockObject, if_neg hguard, hupdate, hentry]
        refine ⟨hok, ?_⟩
        show ({ entries := before ++ entry :: behind, nextLockId := registry.nextLockId } :
          InMemoryTransferSourceRegistry) = registry
        rw [← hentries]
      | true =>
        right
        obtain ⟨result, next, hok, hid, hentry⟩ :=
          @lockEntry_of_takesLock registry now request entry htakes
        refine ⟨before, behind, entry, hvalid, hentries, fun other hother => ?_,
          eq_of_beq hoffer, htakes, ?_, ?_, ?_⟩
        · exact ne_of_beq_false (hbefore other hother)
        · rw [lockObject, if_neg hguard, hupdate, hentry]
          exact hok
        · rw [lockObject, if_neg hguard, hupdate, hentry]
          exact hid
        · rw [lockObject, if_neg hguard, hupdate, hentry]
          rfl
  · left
    have hguard : request.bundleId = 0 ∨ request.offerId = 0 ∨ request.ownerEpoch = 0 ∨
        request.sourceId = 0 ∨ request.objectId = 0 := by
      by_contra hnot
      apply hvalid
      simpa [identityValid, not_or, and_assoc] using hnot
    rw [lockObject, if_pos hguard]
    exact ⟨rfl, rfl⟩

/-- What is left of an entry when the lock of the request is taken out. -/
def unlockedEntry (request : TransferObjectLockRequest) (entry : RegistryEntry) :
    List RegistryEntry :=
  if entry.retired && (entry.locks.eraseP (isLockOf request)).isEmpty then []
  else [{ entry with locks := entry.locks.eraseP (isLockOf request) }]

/-- The outcome of an unlock: the entry of the offer has the lock of the request no more, and a
retired entry without a lock goes. -/
structure Unlocked (registry : InMemoryTransferSourceRegistry)
    (request : TransferObjectLockRequest) (before behind : List RegistryEntry)
    (entry : RegistryEntry) (lock : TransferObjectLockRequest) : Prop where
  entries_eq : registry.entries = before ++ entry :: behind
  lock_mem : lock ∈ entry.locks
  isLock : isLockOf request lock = true
  ok : (registry.unlockObject request).1.ok = true
  after_eq : (registry.unlockObject request).2.entries =
    before ++ (unlockedEntry request entry ++ behind)

/-- An unlock at the first entry of the offer, if the entry has the lock. -/
theorem unlocked_of_find? {before behind : List RegistryEntry} {lock : TransferObjectLockRequest}
    (hvalid : identityValid request = true) (hlockId : request.lockId ≠ 0)
    (hentries : registry.entries = before ++ entry :: behind)
    (hbefore : ∀ other ∈ before, other.bundle.offerId ≠ request.offerId)
    (hoffer : entry.bundle.offerId = request.offerId)
    (hbundle : entry.bundle.bundleId = request.bundleId)
    (hepoch : entry.bundle.ownerEpoch = request.ownerEpoch)
    (hlock : entry.locks.find? (isLockOf request) = some lock) :
    Unlocked registry request before behind entry lock := by
  have hguard : ¬(request.bundleId = 0 ∨ request.offerId = 0 ∨ request.ownerEpoch = 0 ∨
      request.sourceId = 0 ∨ request.objectId = 0 ∨ request.lockId = 0) := by
    simpa [identityValid, not_or, and_assoc, hlockId] using hvalid
  have hstale : ¬(entry.bundle.bundleId ≠ request.bundleId ∨
      entry.bundle.ownerEpoch ≠ request.ownerEpoch) := by
    simp [hbundle, hepoch]
  have hupdate : updateFirst (fun entry => entry.bundle.offerId == request.offerId)
      (unlockEntry request) registry.entries =
      (some (unlockEntry request entry).1,
        before ++ ((unlockEntry request entry).2.toList ++ behind)) := by
    rw [hentries]
    clear hentries
    induction before with
    | nil =>
      rw [List.nil_append, updateFirst, if_pos (beq_iff_eq.mpr hoffer)]
      rfl
    | cons other before ih =>
      have hother : (other.bundle.offerId == request.offerId) = false :=
        beq_eq_false_iff_ne.mpr (hbefore other List.mem_cons_self)
      rw [List.cons_append, updateFirst, hother,
        ih fun other hother => hbefore other (List.mem_cons_of_mem _ hother)]
      rfl
  have hanswer : unlockEntry request entry =
      ({ status := .ok, lockId := lock.lockId, leaseUsec := lock.leaseUsec },
        if entry.retired && (entry.locks.eraseP (isLockOf request)).isEmpty then none
        else some { entry with locks := entry.locks.eraseP (isLockOf request) }) := by
    rw [unlockEntry, if_neg hstale, hlock]
  have hunlock : registry.unlockObject request = ((unlockEntry request entry).1,
      { registry with
        entries := before ++ ((unlockEntry request entry).2.toList ++ behind) }) := by
    rw [unlockObject, if_neg hguard, hupdate]
  refine ⟨hentries, List.mem_of_find?_eq_some hlock, List.find?_some hlock, ?_, ?_⟩
  · rw [hunlock, hanswer]
    rfl
  · rw [hunlock, hanswer, unlockedEntry]
    split
    · rfl
    · rfl

/-- **An unlock is refused and nothing changes, or it takes one lock out.** -/
theorem unlockObject_cases (registry : InMemoryTransferSourceRegistry)
    (request : TransferObjectLockRequest) :
    ((registry.unlockObject request).1.ok = false ∧
        (registry.unlockObject request).2 = registry) ∨
      ∃ before behind entry lock, Unlocked registry request before behind entry lock := by
  by_cases hguard : request.bundleId = 0 ∨ request.offerId = 0 ∨ request.ownerEpoch = 0 ∨
      request.sourceId = 0 ∨ request.objectId = 0 ∨ request.lockId = 0
  · left
    rw [unlockObject, if_pos hguard]
    exact ⟨rfl, rfl⟩
  have hvalid : identityValid request = true ∧ request.lockId ≠ 0 := by
    simpa [identityValid, not_or, and_assoc] using hguard
  cases hfind : registry.entries.find? fun entry => entry.bundle.offerId == request.offerId with
  | none =>
    left
    rw [unlockObject, if_neg hguard, updateFirst_of_none hfind]
    exact ⟨rfl, rfl⟩
  | some entry =>
    obtain ⟨before, behind, hentries, hbefore, hoffer, hupdate⟩ :=
      exists_split_of_find? (f := unlockEntry request) hfind
    have hrefused : ∀ result : TransferObjectLockResult, result.ok = false →
        unlockEntry request entry = (result, some entry) →
        (registry.unlockObject request).1.ok = false ∧
          (registry.unlockObject request).2 = registry := by
      intro result hresult hunlock
      rw [unlockObject, if_neg hguard, hupdate, hunlock]
      refine ⟨hresult, ?_⟩
      show ({ registry with entries := before ++ entry :: behind } :
        InMemoryTransferSourceRegistry) = registry
      rw [← hentries]
    by_cases hstale : entry.bundle.bundleId ≠ request.bundleId ∨
        entry.bundle.ownerEpoch ≠ request.ownerEpoch
    · exact Or.inl (hrefused _ rfl (by rw [unlockEntry, if_pos hstale]))
    · cases hlock : entry.locks.find? (isLockOf request) with
      | none => exact Or.inl (hrefused _ rfl (by rw [unlockEntry, if_neg hstale, hlock]))
      | some lock =>
        push Not at hstale
        exact Or.inr ⟨before, behind, entry, lock, unlocked_of_find? hvalid.1 hvalid.2 hentries
          (fun other hother => ne_of_beq_false (hbefore other hother)) (eq_of_beq hoffer) hstale.1
          hstale.2 hlock⟩

/-! ## What holds whatever the ids are -/

/-- One entry for an offer, a retired entry is locked, and no lock has the id zero. -/
structure OffersSound (registry : InMemoryTransferSourceRegistry) : Prop where
  nodup : (registry.entries.map fun entry => entry.bundle.offerId).Nodup
  retired_locked : ∀ entry ∈ registry.entries, entry.retired = true → entry.locks ≠ []
  lockId_ne_zero : ∀ entry ∈ registry.entries, ∀ lock ∈ entry.locks, lock.lockId ≠ 0

/-- The ids of the locks of an entry are different. -/
def LocksDistinct (registry : InMemoryTransferSourceRegistry) : Prop :=
  ∀ entry ∈ registry.entries, (entry.locks.map fun lock => lock.lockId).Nodup

/-- No request takes a lock at a retired entry. -/
def RetiredRefuse (registry : InMemoryTransferSourceRegistry) : Prop :=
  ∀ entry ∈ registry.entries, entry.retired = true → ∀ now request,
    request.offerId = entry.bundle.offerId → (registry.lockObject now request).1.ok = false

theorem offersSound_empty : OffersSound {} :=
  ⟨List.nodup_nil, by simp, by simp⟩

/-- Of an offer there is one entry, so the one a lock is taken at is not retired. -/
theorem OffersSound.retiredRefuse (h : OffersSound registry) : RetiredRefuse registry := by
  intro entry hentry hretired now request hoffer
  rcases lockObject_cases registry now request with ⟨hok, -⟩ | ⟨before, behind, taken, hlocked⟩
  · exact hok
  · have htaken : taken ∈ registry.entries := by
      rw [hlocked.entries_eq]
      exact List.mem_append_right _ List.mem_cons_self
    have heq : entry = taken :=
      List.inj_on_of_nodup_map h.nodup hentry htaken (hoffer.symm.trans hlocked.offer_eq.symm)
    have hlive := hlocked.takes
    simp [takesLock, ← heq, hretired] at hlive

/-- The entry of an offer that takes the lock is the one the loop finds. -/
theorem lockObject_ok_of_takesLock (h : OffersSound registry)
    (hvalid : identityValid request = true) (hentry : entry ∈ registry.entries)
    (hoffer : entry.bundle.offerId = request.offerId)
    (htakes : takesLock now request entry = true) :
    (registry.lockObject now request).1.ok = true := by
  have hguard : ¬(request.bundleId = 0 ∨ request.offerId = 0 ∨ request.ownerEpoch = 0 ∨
      request.sourceId = 0 ∨ request.objectId = 0) := by
    simpa [identityValid, not_or, and_assoc] using hvalid
  obtain ⟨found, hfind⟩ : ∃ found,
      registry.entries.find? (fun entry => entry.bundle.offerId == request.offerId) =
        some found := by
    rw [← Option.isSome_iff_exists, List.find?_isSome]
    exact ⟨entry, hentry, by simp [hoffer]⟩
  have hfound : (found.bundle.offerId == request.offerId) = true :=
    List.find?_some (p := fun entry : RegistryEntry => entry.bundle.offerId == request.offerId)
      hfind
  have hsame : entry = found :=
    List.inj_on_of_nodup_map h.nodup hentry (List.mem_of_find?_eq_some hfind)
      (hoffer.trans (eq_of_beq hfound).symm)
  obtain ⟨before, behind, -, -, -, hupdate⟩ :=
    exists_split_of_find? (f := registry.lockEntry now request) hfind
  obtain ⟨result, next, hok, -, hlock⟩ := @lockEntry_of_takesLock registry now request entry htakes
  rw [lockObject, if_neg hguard, hupdate, ← hsame, hlock]
  exact hok

/-! ### The calls that retire and drop entries -/

/-- What `clearOffer`, `clearAll` and `releaseAllLocks` have in common: every entry is changed
without changing its offer, and some are dropped. -/
theorem offersSound_of_filter_map (h : OffersSound registry)
    {f : RegistryEntry → RegistryEntry} {keep : RegistryEntry → Bool}
    (hoffer : ∀ entry, (f entry).bundle.offerId = entry.bundle.offerId)
    (hlocks : ∀ entry, (f entry).locks.Sublist entry.locks)
    (hkeep : ∀ entry, keep (f entry) = true → (f entry).retired = true → (f entry).locks ≠ []) :
    OffersSound { registry with entries := (registry.entries.map f).filter keep } where
  nodup := by
    have hsub : ((registry.entries.map f).filter keep).map (fun entry => entry.bundle.offerId)
        |>.Sublist (registry.entries.map fun entry => entry.bundle.offerId) := by
      have hmap : (registry.entries.map f).map (fun entry => entry.bundle.offerId) =
          registry.entries.map fun entry => entry.bundle.offerId := by
        simp [Function.comp_def, hoffer]
      rw [← hmap]
      exact List.filter_sublist.map _
    exact h.nodup.sublist hsub
  retired_locked := by
    intro entry hentry hretired
    obtain ⟨hmem, hkept⟩ := List.mem_filter.mp hentry
    obtain ⟨old, -, rfl⟩ := List.mem_map.mp hmem
    exact hkeep old hkept hretired
  lockId_ne_zero := by
    intro entry hentry lock hlock
    obtain ⟨hmem, -⟩ := List.mem_filter.mp hentry
    obtain ⟨old, hold, rfl⟩ := List.mem_map.mp hmem
    exact h.lockId_ne_zero old hold lock ((hlocks old).subset hlock)

theorem locksDistinct_of_filter_map (h : LocksDistinct registry)
    {f : RegistryEntry → RegistryEntry} {keep : RegistryEntry → Bool}
    (hlocks : ∀ entry, (f entry).locks.Sublist entry.locks) :
    LocksDistinct { registry with entries := (registry.entries.map f).filter keep } := by
  intro entry hentry
  obtain ⟨hmem, -⟩ := List.mem_filter.mp hentry
  obtain ⟨old, hold, rfl⟩ := List.mem_map.mp hmem
  exact (h old hold).sublist ((hlocks old).map _)

@[simp] theorem retire_offerId (offerId : TransferOfferId) (entry : RegistryEntry) :
    (retire offerId entry).bundle.offerId = entry.bundle.offerId := by
  unfold retire
  split <;> rfl

@[simp] theorem retire_locks (offerId : TransferOfferId) (entry : RegistryEntry) :
    (retire offerId entry).locks = entry.locks := by
  unfold retire
  split <;> rfl

theorem OffersSound.clearOffer (h : OffersSound registry) (offerId : TransferOfferId) :
    OffersSound (registry.clearOffer offerId).2 := by
  refine offersSound_of_filter_map h (retire_offerId offerId) (fun entry => by simp) ?_
  intro entry hkept hretired
  simpa [hretired] using hkept

theorem OffersSound.clearAll (h : OffersSound registry) : OffersSound registry.clearAll.2 := by
  refine offersSound_of_filter_map h (fun _ => rfl) (fun _ => List.Sublist.refl _) ?_
  intro entry hkept _
  simpa using hkept

theorem OffersSound.releaseAllLocks (h : OffersSound registry) :
    OffersSound registry.releaseAllLocks.2 := by
  refine offersSound_of_filter_map h (fun _ => rfl) (fun _ => List.nil_sublist _) ?_
  intro entry hkept hretired
  have hlive : entry.retired = false := by simpa using hkept
  exact absurd (hretired.symm.trans hlive) (by decide)

/-! ### Storing a bundle -/

/-- The entries of an offer are gone after `clearOffer`, or they are retired and locked. -/
theorem store_cases (registry : InMemoryTransferSourceRegistry) (bundle : TransferSourceBundle) :
    (registry.store bundle).2 = registry ∨
      (registry.store bundle).2 = (registry.clearOffer bundle.offerId).2 ∨
      ((∀ entry ∈ (registry.clearOffer bundle.offerId).2.entries,
          entry.bundle.offerId ≠ bundle.offerId) ∧
        (registry.store bundle).2 = { (registry.clearOffer bundle.offerId).2 with
          entries :=
            (registry.clearOffer bundle.offerId).2.entries ++ [{ bundle := bundle }] }) := by
  unfold store
  by_cases hinvalid : bundle.bundleId = 0 ∨ bundle.offerId = 0
  · exact Or.inl (by rw [if_pos hinvalid])
  by_cases hblocked : ((registry.clearOffer bundle.offerId).2.entries.any
      fun entry => entry.bundle.offerId == bundle.offerId) = true
  · exact Or.inr (Or.inl (by simp only [if_neg hinvalid, if_pos hblocked]))
  · refine Or.inr (Or.inr ⟨?_, by simp only [if_neg hinvalid, if_neg hblocked]⟩)
    simpa using hblocked

theorem OffersSound.store (h : OffersSound registry) (bundle : TransferSourceBundle) :
    OffersSound (registry.store bundle).2 := by
  rcases store_cases registry bundle with heq | heq | ⟨hfree, heq⟩
  · rwa [heq]
  · rw [heq]
    exact h.clearOffer bundle.offerId
  · have hclear := h.clearOffer bundle.offerId
    rw [heq]
    refine ⟨?_, ?_, ?_⟩
    · rw [List.map_append, List.nodup_append]
      refine ⟨hclear.nodup, List.nodup_singleton _, ?_⟩
      simpa using hfree
    · intro entry hentry hretired
      rcases List.mem_append.mp hentry with hold | hnew
      · exact hclear.retired_locked entry hold hretired
      · rw [List.mem_singleton.mp hnew] at hretired
        cases hretired
    · intro entry hentry lock hlock
      rcases List.mem_append.mp hentry with hold | hnew
      · exact hclear.lockId_ne_zero entry hold lock hlock
      · rw [List.mem_singleton.mp hnew] at hlock
        cases hlock

/-! ### Locking and unlocking -/

theorem OffersSound.lockObject (h : OffersSound registry) (now : Moment)
    (request : TransferObjectLockRequest) : OffersSound (registry.lockObject now request).2 := by
  rcases lockObject_cases registry now request with ⟨-, heq⟩ | ⟨before, behind, entry, hlocked⟩
  · rwa [heq]
  have hentry : entry ∈ registry.entries := by
    rw [hlocked.entries_eq]
    exact List.mem_append_right _ List.mem_cons_self
  have hothers : ∀ other, other ∈ before ∨ other ∈ behind → other ∈ registry.entries := by
    intro other hother
    rw [hlocked.entries_eq, List.mem_append, List.mem_cons]
    exact hother.imp id Or.inr
  refine ⟨?_, ?_, ?_⟩
  · have hnodup := h.nodup
    rw [hlocked.entries_eq] at hnodup
    rw [hlocked.after_eq]
    simpa using hnodup
  · intro other hother hretired
    rw [hlocked.after_eq, List.mem_append, List.mem_cons] at hother
    rcases hother with hbefore | rfl | hbehind
    · exact h.retired_locked other (hothers other (Or.inl hbefore)) hretired
    · simp
    · exact h.retired_locked other (hothers other (Or.inr hbehind)) hretired
  · intro other hother lock hlock
    rw [hlocked.after_eq, List.mem_append, List.mem_cons] at hother
    rcases hother with hbefore | rfl | hbehind
    · exact h.lockId_ne_zero other (hothers other (Or.inl hbefore)) lock hlock
    · rcases List.mem_append.mp hlock with hold | hnew
      · exact h.lockId_ne_zero entry hentry lock hold
      · rw [List.mem_singleton.mp hnew]
        exact grantedLock_lockId_ne_zero
    · exact h.lockId_ne_zero other (hothers other (Or.inr hbehind)) lock hlock

/-- What is left of an unlocked entry is of the same offer, with fewer locks. -/
theorem mem_unlockedEntry {other : RegistryEntry} (h : other ∈ unlockedEntry request entry) :
    other = { entry with locks := entry.locks.eraseP (isLockOf request) } ∧
      (other.retired = true → other.locks ≠ []) := by
  unfold unlockedEntry at h
  split at h
  · cases h
  · next hkept =>
    have heq := List.mem_singleton.mp h
    refine ⟨heq, fun hretired hempty => hkept ?_⟩
    rw [heq] at hretired hempty
    simp only at hretired hempty
    rw [hretired, hempty]
    rfl

theorem OffersSound.unlockObject (h : OffersSound registry)
    (request : TransferObjectLockRequest) : OffersSound (registry.unlockObject request).2 := by
  rcases unlockObject_cases registry request with
    ⟨-, heq⟩ | ⟨before, behind, entry, lock, hunlocked⟩
  · rwa [heq]
  have hentry : entry ∈ registry.entries := by
    rw [hunlocked.entries_eq]
    exact List.mem_append_right _ List.mem_cons_self
  have hothers : ∀ other, other ∈ before ∨ other ∈ behind → other ∈ registry.entries := by
    intro other hother
    rw [hunlocked.entries_eq, List.mem_append, List.mem_cons]
    exact hother.imp id Or.inr
  refine ⟨?_, ?_, ?_⟩
  · have hsub : ((registry.unlockObject request).2.entries.map
        fun entry => entry.bundle.offerId).Sublist
        (registry.entries.map fun entry => entry.bundle.offerId) := by
      rw [hunlocked.after_eq, hunlocked.entries_eq, List.map_append, List.map_append,
        List.map_append, List.map_cons]
      refine List.Sublist.append_left ?_ _
      unfold unlockedEntry
      split
      · exact List.sublist_cons_self _ _
      · exact List.Sublist.refl _
    exact h.nodup.sublist hsub
  · intro other hother hretired
    rw [hunlocked.after_eq, List.mem_append, List.mem_append] at hother
    rcases hother with hbefore | hleft | hbehind
    · exact h.retired_locked other (hothers other (Or.inl hbefore)) hretired
    · exact (mem_unlockedEntry hleft).2 hretired
    · exact h.retired_locked other (hothers other (Or.inr hbehind)) hretired
  · intro other hother left hleft
    rw [hunlocked.after_eq, List.mem_append, List.mem_append] at hother
    rcases hother with hbefore | hkept | hbehind
    · exact h.lockId_ne_zero other (hothers other (Or.inl hbefore)) left hleft
    · rw [(mem_unlockedEntry hkept).1] at hleft
      exact h.lockId_ne_zero entry hentry left (List.eraseP_subset hleft)
    · exact h.lockId_ne_zero other (hothers other (Or.inr hbehind)) left hleft

/-! ## How many locks there are -/

theorem lockCount_filter_map {f : RegistryEntry → RegistryEntry} {keep : RegistryEntry → Bool}
    (hlocks : ∀ entry, (f entry).locks = entry.locks)
    (hdrop : ∀ entry, keep (f entry) = false → entry.locks = []) :
    lockCount { registry with entries := (registry.entries.map f).filter keep } =
      registry.lockCount := by
  unfold lockCount
  induction registry.entries with
  | nil => rfl
  | cons entry entries ih =>
    rw [List.map_cons, List.map_cons, List.sum_cons]
    cases hkeep : keep (f entry) with
    | true => rw [List.filter_cons_of_pos hkeep, List.map_cons, List.sum_cons, ih, hlocks]
    | false =>
      rw [List.filter_cons_of_neg (by simp [hkeep]), ih, hdrop entry hkeep, List.length_nil,
        Nat.zero_add]

theorem lockCount_clearOffer (registry : InMemoryTransferSourceRegistry)
    (offerId : TransferOfferId) :
    (registry.clearOffer offerId).2.lockCount = registry.lockCount := by
  refine lockCount_filter_map (retire_locks offerId) fun entry hdrop => ?_
  rw [Bool.not_eq_false', Bool.and_eq_true, retire_locks] at hdrop
  exact List.isEmpty_iff.mp hdrop.2

theorem lockCount_clearAll (registry : InMemoryTransferSourceRegistry) :
    registry.clearAll.2.lockCount = registry.lockCount := by
  refine lockCount_filter_map (fun _ => rfl) fun entry hdrop => ?_
  rw [Bool.not_eq_false'] at hdrop
  exact List.isEmpty_iff.mp hdrop

theorem lockCount_store (registry : InMemoryTransferSourceRegistry)
    (bundle : TransferSourceBundle) :
    (registry.store bundle).2.lockCount = registry.lockCount := by
  rcases store_cases registry bundle with heq | heq | ⟨-, heq⟩
  · rw [heq]
  · rw [heq, lockCount_clearOffer]
  · rw [heq, ← lockCount_clearOffer registry bundle.offerId]
    simp [lockCount]

theorem lockCount_releaseAllLocks (registry : InMemoryTransferSourceRegistry) :
    registry.releaseAllLocks.2.lockCount = 0 := by
  simp only [releaseAllLocks, lockCount]
  refine List.sum_eq_zero fun n hn => ?_
  obtain ⟨entry, hentry, rfl⟩ := List.mem_map.mp hn
  obtain ⟨old, -, rfl⟩ := List.mem_map.mp (List.mem_filter.mp hentry).1
  rfl

theorem Locked.lockCount {before behind : List RegistryEntry}
    (h : Locked registry now request before behind entry) :
    (registry.lockObject now request).2.lockCount = registry.lockCount + 1 := by
  unfold InMemoryTransferSourceRegistry.lockCount
  rw [h.after_eq, h.entries_eq]
  simp only [List.map_append, List.map_cons, List.sum_append, List.sum_cons, List.length_append,
    List.length_cons, List.length_nil]
  omega

theorem Unlocked.lockCount {before behind : List RegistryEntry} {lock : TransferObjectLockRequest}
    (h : Unlocked registry request before behind entry lock) :
    (registry.unlockObject request).2.lockCount + 1 = registry.lockCount := by
  have hlen := List.length_eraseP_add_one h.lock_mem h.isLock
  have hleft : ((unlockedEntry request entry).map fun entry => entry.locks.length).sum =
      (entry.locks.eraseP (isLockOf request)).length := by
    unfold unlockedEntry
    split
    · next hgone =>
      rw [Bool.and_eq_true, List.isEmpty_iff] at hgone
      rw [hgone.2]
      rfl
    · simp
  unfold InMemoryTransferSourceRegistry.lockCount
  rw [h.after_eq, h.entries_eq]
  simp only [List.map_append, List.map_cons, List.sum_append, List.sum_cons, hleft]
  omega

/-! ## Distinct ids -/

theorem LocksDistinct.store (h : LocksDistinct registry) (bundle : TransferSourceBundle) :
    LocksDistinct (registry.store bundle).2 := by
  have hclear : LocksDistinct (registry.clearOffer bundle.offerId).2 :=
    locksDistinct_of_filter_map h fun entry => by simp
  rcases store_cases registry bundle with heq | heq | ⟨-, heq⟩
  · rwa [heq]
  · rwa [heq]
  · intro entry hentry
    rw [heq] at hentry
    rcases List.mem_append.mp hentry with hold | hnew
    · exact hclear entry hold
    · rw [List.mem_singleton.mp hnew]
      exact List.nodup_nil

/-- **The ids stay distinct exactly if the new one is not active at the entry.** -/
theorem Locked.locksDistinct_iff {before behind : List RegistryEntry}
    (h : LocksDistinct registry) (hlocked : Locked registry now request before behind entry) :
    LocksDistinct (registry.lockObject now request).2 ↔
      ∀ lock ∈ entry.locks, lock.lockId ≠ (grantedLock registry request).lockId := by
  have hentry : entry ∈ registry.entries := by
    rw [hlocked.entries_eq]
    exact List.mem_append_right _ List.mem_cons_self
  have hnew : ((entry.locks ++ [grantedLock registry request]).map fun lock => lock.lockId).Nodup ↔
      ∀ lock ∈ entry.locks, lock.lockId ≠ (grantedLock registry request).lockId := by
    rw [List.map_append, List.nodup_append]
    constructor
    · intro hnodup lock hlock
      exact hnodup.2.2 _ (List.mem_map_of_mem hlock) _ List.mem_cons_self
    · intro hfresh
      refine ⟨h entry hentry, List.nodup_singleton _, ?_⟩
      intro id hid other hother
      obtain ⟨lock, hlock, rfl⟩ := List.mem_map.mp hid
      rw [List.mem_singleton.mp hother]
      exact hfresh lock hlock
  rw [← hnew]
  constructor
  · intro hdistinct
    refine hdistinct { entry with locks := entry.locks ++ [grantedLock registry request] } ?_
    rw [hlocked.after_eq]
    exact List.mem_append_right _ List.mem_cons_self
  · intro hnodup other hother
    rw [hlocked.after_eq, List.mem_append, List.mem_cons] at hother
    have hold : ∀ other, other ∈ before ∨ other ∈ behind → other ∈ registry.entries := by
      intro other hmem
      rw [hlocked.entries_eq, List.mem_append, List.mem_cons]
      exact hmem.imp id Or.inr
    rcases hother with hbefore | rfl | hbehind
    · exact h other (hold other (Or.inl hbefore))
    · exact hnodup
    · exact h other (hold other (Or.inr hbehind))

theorem LocksDistinct.unlockObject (h : LocksDistinct registry)
    (request : TransferObjectLockRequest) : LocksDistinct (registry.unlockObject request).2 := by
  rcases unlockObject_cases registry request with
    ⟨-, heq⟩ | ⟨before, behind, entry, lock, hunlocked⟩
  · rwa [heq]
  intro other hother
  have hold : ∀ old, old ∈ before ∨ old = entry ∨ old ∈ behind →
      (old.locks.map fun lock => lock.lockId).Nodup := by
    intro old hmem
    refine h old ?_
    rwa [hunlocked.entries_eq, List.mem_append, List.mem_cons]
  rw [hunlocked.after_eq, List.mem_append, List.mem_append] at hother
  rcases hother with hbefore | hleft | hbehind
  · exact hold other (Or.inl hbefore)
  · rw [(mem_unlockedEntry hleft).1]
    exact (hold entry (Or.inr (Or.inl rfl))).sublist (List.eraseP_sublist.map _)
  · exact hold other (Or.inr (Or.inr hbehind))

/-- **Unlocking what was just locked gives the old entries back**, if the id was not active. -/
theorem Locked.restores {before behind : List RegistryEntry}
    (hlocked : Locked registry now request before behind entry)
    (hfresh : ∀ lock ∈ entry.locks, lock.lockId ≠ (grantedLock registry request).lockId) :
    let after := (registry.lockObject now request).2
    let release := { request with lockId := (registry.lockObject now request).1.lockId }
    (after.unlockObject release).1.ok = true ∧
      (after.unlockObject release).2.entries = registry.entries := by
  intro after release
  have hid : release.lockId = (grantedLock registry request).lockId := hlocked.lockId_eq
  have htakes := hlocked.takes
  simp only [takesLock, Bool.and_eq_true, Bool.not_eq_true', beq_iff_eq] at htakes
  obtain ⟨⟨⟨⟨hretired, hbundle⟩, hepoch⟩, -⟩, -⟩ := htakes
  have hother : ∀ lock ∈ entry.locks, isLockOf release lock = false := by
    intro lock hlock
    have hne : (lock.lockId == release.lockId) = false := by
      rw [hid]
      exact beq_eq_false_iff_ne.mpr (hfresh lock hlock)
    simp only [isLockOf, hne, Bool.false_and]
  have hthis : isLockOf release (grantedLock registry request) = true := by
    unfold isLockOf grantedLock
    rw [hid, grantedLock]
    split <;> simp [release]
  have hfind : (entry.locks ++ [grantedLock registry request]).find? (isLockOf release) =
      some (grantedLock registry request) := by
    rw [List.find?_append, List.find?_eq_none.mpr fun lock hlock => by simp [hother lock hlock]]
    simp [hthis]
  have herase : (entry.locks ++ [grantedLock registry request]).eraseP (isLockOf release) =
      entry.locks := by
    rw [List.eraseP_append_right _ fun lock hlock => by simp [hother lock hlock]]
    simp [hthis]
  have hne : release.lockId ≠ 0 := by
    rw [hid]
    exact grantedLock_lockId_ne_zero
  have hunlocked : Unlocked after release before behind
      { entry with locks := entry.locks ++ [grantedLock registry request] }
      (grantedLock registry request) :=
    unlocked_of_find? hlocked.valid hne hlocked.after_eq hlocked.before_ne hlocked.offer_eq hbundle
      hepoch hfind
  refine ⟨hunlocked.ok, ?_⟩
  rw [hunlocked.after_eq, unlockedEntry, herase, if_neg (by simp [hretired]), hlocked.entries_eq]
  rfl

end InMemoryTransferSourceRegistry

/-! ## Runs -/

/-- One call. -/
inductive TransferRegistryOp
  | store (bundle : TransferSourceBundle)
  | clearOffer (offerId : TransferOfferId)
  | clearAll
  | releaseAllLocks
  | lockObject (now : Moment) (request : TransferObjectLockRequest)
  | unlockObject (request : TransferObjectLockRequest)

/-- The registry, with the number of locks taken and given back since the start. -/
structure LockLedger where
  registry : InMemoryTransferSourceRegistry := {}
  locked : ℕ := 0
  released : ℕ := 0

namespace LockLedger

open InMemoryTransferSourceRegistry

/-- The call, entered in the ledger by what it returns. -/
def step (ledger : LockLedger) : TransferRegistryOp → LockLedger
  | .store bundle => { ledger with registry := (ledger.registry.store bundle).2 }
  | .clearOffer offerId => { ledger with registry := (ledger.registry.clearOffer offerId).2 }
  | .clearAll => { ledger with registry := ledger.registry.clearAll.2 }
  | .releaseAllLocks => { ledger with
      registry := ledger.registry.releaseAllLocks.2
      released := ledger.released + ledger.registry.releaseAllLocks.1 }
  | .lockObject now request =>
    let answer := ledger.registry.lockObject now request
    { ledger with
      registry := answer.2
      locked := if answer.1.ok then ledger.locked + 1 else ledger.locked }
  | .unlockObject request =>
    let answer := ledger.registry.unlockObject request
    { ledger with
      registry := answer.2
      released := if answer.1.ok then ledger.released + 1 else ledger.released }

/-- What is asked of a call: of the registry after it, and of locking and unlocking. -/
structure CallSound (ledger : LockLedger) (op : TransferRegistryOp) : Prop where
  offers : OffersSound (ledger.step op).registry
  retired_refuse : RetiredRefuse (ledger.step op).registry
  distinct : LocksDistinct (ledger.step op).registry
  balance : (ledger.step op).registry.lockCount + (ledger.step op).released =
    (ledger.step op).locked
  lock_restored : ∀ now request, op = .lockObject now request →
    (ledger.registry.lockObject now request).1.ok = true →
      let after := (ledger.registry.lockObject now request).2
      let release := { request with lockId := (ledger.registry.lockObject now request).1.lockId }
      (after.unlockObject release).1.ok = true ∧
        (after.unlockObject release).2.entries = ledger.registry.entries
  lock_failed : ∀ now request, op = .lockObject now request →
    (ledger.registry.lockObject now request).1.ok = false →
      (ledger.step op).registry = ledger.registry
  unlock_failed : ∀ request, op = .unlockObject request →
    (ledger.registry.unlockObject request).1.ok = false →
      (ledger.step op).registry = ledger.registry

/-- The call does not take an active id from the counter: a request without an id that an entry of
its offer would take finds the id of the counter unused there. -/
def AssignsFreshId (ledger : LockLedger) (op : TransferRegistryOp) : Prop :=
  ∀ now request, op = .lockObject now request → request.lockId = 0 →
    identityValid request = true → ∀ entry ∈ ledger.registry.entries,
      entry.bundle.offerId = request.offerId → takesLock now request entry = true →
        ∀ lock ∈ entry.locks, lock.lockId ≠ ledger.registry.assignedLockId

/-- What holds of a ledger as long as every call is sound. -/
structure Sound (ledger : LockLedger) : Prop where
  offers : OffersSound ledger.registry
  distinct : LocksDistinct ledger.registry
  balance : ledger.registry.lockCount + ledger.released = ledger.locked

theorem sound_empty : Sound {} :=
  ⟨offersSound_empty, fun _ h => absurd h List.not_mem_nil, rfl⟩

theorem CallSound.sound {ledger : LockLedger} {op : TransferRegistryOp} (h : CallSound ledger op) :
    Sound (ledger.step op) :=
  ⟨h.offers, h.distinct, h.balance⟩

theorem offersSound_step {ledger : LockLedger} (h : OffersSound ledger.registry)
    (op : TransferRegistryOp) : OffersSound (ledger.step op).registry := by
  cases op with
  | store bundle => exact h.store bundle
  | clearOffer offerId => exact h.clearOffer offerId
  | clearAll => exact h.clearAll
  | releaseAllLocks => exact h.releaseAllLocks
  | lockObject now request => exact h.lockObject now request
  | unlockObject request => exact h.unlockObject request

/-- The balance needs nothing but the balance before. -/
theorem balance_step {ledger : LockLedger}
    (h : ledger.registry.lockCount + ledger.released = ledger.locked) (op : TransferRegistryOp) :
    (ledger.step op).registry.lockCount + (ledger.step op).released = (ledger.step op).locked := by
  cases op with
  | store bundle =>
    simp only [step, lockCount_store]
    exact h
  | clearOffer offerId =>
    simp only [step, lockCount_clearOffer]
    exact h
  | clearAll =>
    simp only [step, lockCount_clearAll]
    exact h
  | releaseAllLocks =>
    simp only [step, lockCount_releaseAllLocks]
    have hreleased : ledger.registry.releaseAllLocks.1 = ledger.registry.lockCount := rfl
    omega
  | lockObject now request =>
    rcases lockObject_cases ledger.registry now request with
      ⟨hok, heq⟩ | ⟨before, behind, entry, hlocked⟩
    · simp only [step, hok, heq, Bool.false_eq_true, if_false]
      exact h
    · have hcount := hlocked.lockCount
      simp only [step, hlocked.ok, if_true]
      omega
  | unlockObject request =>
    rcases unlockObject_cases ledger.registry request with
      ⟨hok, heq⟩ | ⟨before, behind, entry, lock, hunlocked⟩
    · simp only [step, hok, heq, Bool.false_eq_true, if_false]
      exact h
    · have hcount := hunlocked.lockCount
      simp only [step, hunlocked.ok, if_true]
      omega

/-- The id of a lock that is taken is new at its entry, by the question of the registry or by the
condition. -/
theorem AssignsFreshId.fresh {ledger : LockLedger} {now : Moment}
    {request : TransferObjectLockRequest} {before behind : List RegistryEntry}
    {entry : RegistryEntry} (h : AssignsFreshId ledger (.lockObject now request))
    (hlocked : Locked ledger.registry now request before behind entry) :
    ∀ lock ∈ entry.locks, lock.lockId ≠ (grantedLock ledger.registry request).lockId := by
  intro lock hlock
  by_cases hzero : request.lockId = 0
  · have hentry : entry ∈ ledger.registry.entries := by
      rw [hlocked.entries_eq]
      exact List.mem_append_right _ List.mem_cons_self
    rw [grantedLock, if_pos hzero]
    exact h now request rfl hzero hlocked.valid entry hentry hlocked.offer_eq hlocked.takes lock
      hlock
  · have htakes := hlocked.takes
    simp only [takesLock, Bool.and_eq_true, Bool.not_eq_true', List.any_eq_false] at htakes
    rw [grantedLock, if_neg hzero]
    simpa [hzero] using htakes.1.2 lock hlock

/-- **A call keeps the ids distinct exactly if it does not take an active one from the counter.** -/
theorem locksDistinct_step_iff {ledger : LockLedger} (h : Sound ledger) (op : TransferRegistryOp) :
    LocksDistinct (ledger.step op).registry ↔ AssignsFreshId ledger op := by
  have hother : (∀ now request, op ≠ .lockObject now request) →
      LocksDistinct (ledger.step op).registry →
        (LocksDistinct (ledger.step op).registry ↔ AssignsFreshId ledger op) := by
    intro hne hdistinct
    exact iff_of_true hdistinct fun now request heq => absurd heq (hne now request)
  cases op with
  | store bundle => exact hother (by simp) (h.distinct.store bundle)
  | clearOffer offerId =>
    exact hother (by simp) (locksDistinct_of_filter_map h.distinct fun entry => by simp)
  | clearAll =>
    exact hother (by simp) (locksDistinct_of_filter_map h.distinct fun _ => List.Sublist.refl _)
  | releaseAllLocks =>
    exact hother (by simp) (locksDistinct_of_filter_map h.distinct fun _ => List.nil_sublist _)
  | unlockObject request => exact hother (by simp) (h.distinct.unlockObject request)
  | lockObject now request =>
    show LocksDistinct (ledger.registry.lockObject now request).2 ↔ _
    constructor
    · intro hdistinct now' request' heq hzero hvalid entry hentry hoffer htakes
      cases heq
      rcases lockObject_cases ledger.registry now request with
        ⟨hok, -⟩ | ⟨before, behind, taken, hlocked⟩
      · have htaken := lockObject_ok_of_takesLock h.offers hvalid hentry hoffer htakes
        exact absurd (htaken.symm.trans hok) (by decide)
      · have htaken : taken ∈ ledger.registry.entries := by
          rw [hlocked.entries_eq]
          exact List.mem_append_right _ List.mem_cons_self
        have hsame : entry = taken :=
          List.inj_on_of_nodup_map h.offers.nodup hentry htaken
            (hoffer.trans hlocked.offer_eq.symm)
        have hfresh := (hlocked.locksDistinct_iff h.distinct).mp hdistinct
        rw [grantedLock, if_pos hzero, ← hsame] at hfresh
        exact hfresh
    · intro hfresh
      rcases lockObject_cases ledger.registry now request with
        ⟨-, heq⟩ | ⟨before, behind, entry, hlocked⟩
      · rw [heq]
        exact h.distinct
      · exact (hlocked.locksDistinct_iff h.distinct).mpr (hfresh.fresh hlocked)

/-- **From a sound ledger a call is sound exactly if it does not take an active id from the
counter.** -/
theorem callSound_iff {ledger : LockLedger} (h : Sound ledger) (op : TransferRegistryOp) :
    CallSound ledger op ↔ AssignsFreshId ledger op := by
  constructor
  · intro hsound
    exact (locksDistinct_step_iff h op).mp hsound.distinct
  · intro hfresh
    have hoffers := offersSound_step h.offers op
    refine ⟨hoffers, hoffers.retiredRefuse, (locksDistinct_step_iff h op).mpr hfresh,
      balance_step h.balance op, ?_, ?_, ?_⟩
    · rintro now request rfl hok
      rcases lockObject_cases ledger.registry now request with
        ⟨hrefused, -⟩ | ⟨before, behind, entry, hlocked⟩
      · exact absurd (hok.symm.trans hrefused) (by decide)
      · exact hlocked.restores (hfresh.fresh hlocked)
    · rintro now request rfl hfailed
      rcases lockObject_cases ledger.registry now request with
        ⟨-, heq⟩ | ⟨before, behind, entry, hlocked⟩
      · exact heq
      · exact absurd (hlocked.ok.symm.trans hfailed) (by decide)
    · rintro request rfl hfailed
      rcases unlockObject_cases ledger.registry request with
        ⟨-, heq⟩ | ⟨before, behind, entry, lock, hunlocked⟩
      · exact heq
      · exact absurd (hunlocked.ok.symm.trans hfailed) (by decide)

end LockLedger

/-- **Every call of a run is sound exactly if no call of it takes an active id from the
counter.** -/
theorem transferRegistry_sound_iff (ops : List TransferRegistryOp) :
    Runs.EveryStep LockLedger.step LockLedger.CallSound {} ops ↔
      Runs.EveryStep LockLedger.step LockLedger.AssignsFreshId {} ops :=
  Runs.everyStep_iff_of_invariant LockLedger.sound_empty (fun _ _ _ h => h.sound)
    fun _ op h => LockLedger.callSound_iff h op

/-! ## A peer that names its first lock `1` -/

/-- A source of one file with the object id `7`, and no name but `a`. -/
def oneFileSource : TransferSource where
  id := 3
  formats _ := [{ canonicalFormat := fdclFileListFormat, formatId := 5, canStream := true }]
  read _ _ := {
    status := .ok
    canonicalFormat := fdclFileListFormat
    bytes := bytesOf "FDFL" ++ [1, 0, 0, 0, 1, 0, 0, 0, 7, 0, 0, 0, 0, 0, 0, 0] ++
      [1, 0, 0, 0, 0, 0, 0, 0, 0, 0, 0, 0, 0, 0, 0, 0, 0, 1, 0] ++ bytesOf "a" }

def oneFileBundle : TransferSourceBundle where
  bundleId := 1
  offerId := 2
  ownerEpoch := 1
  sources := [some oneFileSource]

def oneFileLock (lockId : TransferObjectLockId) : TransferObjectLockRequest where
  bundleId := 1
  offerId := 2
  ownerEpoch := 1
  sourceId := 3
  objectId := 7
  lockId := lockId

/-- The bundle is stored, its file is locked under the id `1`, and once more without an id. -/
def namedThenUnnamed : List TransferRegistryOp :=
  [.store oneFileBundle, .lockObject 0 (oneFileLock 1), .lockObject 0 (oneFileLock 0)]

theorem not_callSound_namedThenUnnamed :
    ¬Runs.EveryStep LockLedger.step LockLedger.CallSound {} namedThenUnnamed := by
  intro h
  have hdistinct := h.2.2.1.distinct
  have hids : ∀ entry ∈ (Runs.run LockLedger.step {} namedThenUnnamed).registry.entries,
      entry.locks.map (fun lock => lock.lockId) = [1, 1] := by
    decide
  obtain ⟨entry, hentry⟩ : ∃ entry,
      entry ∈ (Runs.run LockLedger.step {} namedThenUnnamed).registry.entries :=
    List.exists_mem_of_length_pos (by decide)
  have hnodup := hdistinct entry hentry
  rw [hids entry hentry] at hnodup
  exact absurd hnodup (by decide)

end Clipboard
end FusionDesk
