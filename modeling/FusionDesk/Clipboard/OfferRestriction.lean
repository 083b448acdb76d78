import FusionDesk.Clipboard.ModelConversion
import FusionDesk.Clipboard.TransferRegistryRuns

/-!
# The entries of some offers

A registry is asked by offer id, so what it says of some offers hangs on their entries alone.  For a
list `own` of offer ids, `restrictTo own` is the registry with the entries of these offers; every
call about one of them does the same to the registry and to its restriction.

A call about another offer can still tell: it may take a lock, and the ids of locks come from one
counter.  So the entries of the other offers are asked to be `Inert`: without locks, and with sources
that read nothing.  The entries that stand for the offers of a peer are of this kind
(`inert_remote`).

* `restrictTo_store`, `restrictTo_clearOffer`, `restrictTo_lockObject`, `restrictTo_unlockObject`:
  the calls about the own offers.
* `restrictTo_store_foreign`, `lockObject_foreign`, `unlockObject_foreign`: the calls about the
  others.
-/

namespace FusionDesk
namespace Clipboard

open Protocol FirstMatch

/-- No lock, and no source that reads. -/
structure Inert (entry : RegistryEntry) : Prop where
  locks : entry.locks = []
  reads : ∀ sourceId source, entry.bundle.findSource sourceId = some source → ∀ now request,
    (source.read now request).ok = false

namespace InMemoryTransferSourceRegistry

variable {registry : InMemoryTransferSourceRegistry} {own : List TransferOfferId}
  {offerId : TransferOfferId}

/-- The entry is of one of the offers. -/
def isOwn (own : List TransferOfferId) (entry : RegistryEntry) : Bool :=
  decide (entry.bundle.offerId ∈ own)

/-- The entries of the offers. -/
def restrictTo (own : List TransferOfferId) (registry : InMemoryTransferSourceRegistry) :
    InMemoryTransferSourceRegistry :=
  { registry with entries := registry.entries.filter (isOwn own) }

/-- The entries of other offers are inert. -/
def ForeignInert (own : List TransferOfferId) (registry : InMemoryTransferSourceRegistry) : Prop :=
  ∀ entry ∈ registry.entries, entry.bundle.offerId ∉ own → Inert entry

@[simp] theorem nextLockId_restrictTo : (registry.restrictTo own).nextLockId = registry.nextLockId :=
  rfl

@[ext] theorem ext_registry {r s : InMemoryTransferSourceRegistry} (hentries : r.entries = s.entries)
    (hnext : r.nextLockId = s.nextLockId) : r = s := by
  cases r
  cases s
  cases hentries
  cases hnext
  rfl

/-- An offer that is there already adds nothing. -/
theorem restrictTo_cons_of_mem (h : offerId ∈ own) :
    registry.restrictTo (offerId :: own) = registry.restrictTo own := by
  ext : 1
  · refine List.filter_congr fun entry _ => ?_
    simp only [isOwn, List.mem_cons]
    by_cases heq : entry.bundle.offerId = offerId
    · simp [heq, h]
    · simp [heq]
  · rfl

theorem retire_of_ne {entry : RegistryEntry} (h : entry.bundle.offerId ≠ offerId) :
    retire offerId entry = entry := by
  rw [retire, if_neg h]

theorem bundle_retire (offerId : TransferOfferId) (entry : RegistryEntry) :
    (retire offerId entry).bundle = entry.bundle := by
  unfold retire
  split <;> rfl

/-! ## What is found -/

/-- **An own offer is found in the restriction as it is in the registry.** -/
theorem findBundle_restrictTo (h : offerId ∈ own) :
    (registry.restrictTo own).findBundle offerId = registry.findBundle offerId := by
  unfold findBundle restrictTo
  rw [List.find?_filter]
  congr 2
  funext entry
  by_cases heq : entry.bundle.offerId = offerId
  · simp [isOwn, heq, h]
  · simp [heq]

theorem lookupSource_restrictTo {request : TransferReadRequest} (h : request.offerId ∈ own) :
    (registry.restrictTo own).lookupSource request = registry.lookupSource request := by
  unfold lookupSource
  rw [findBundle_restrictTo h]

theorem lookupSource_congr {r r' : InMemoryTransferSourceRegistry} {request : TransferReadRequest}
    (h : r.findBundle request.offerId = r'.findBundle request.offerId) :
    r.lookupSource request = r'.lookupSource request := by
  unfold lookupSource
  rw [h]

theorem findBundle_eq_none :
    registry.findBundle offerId = none ↔
      ∀ entry ∈ registry.entries, entry.bundle.offerId ≠ offerId := by
  unfold findBundle
  rw [Option.map_eq_none_iff, List.find?_eq_none]
  simp only [beq_iff_eq]

/-- What is found is the bundle of an entry of the offer. -/
theorem exists_of_findBundle {bundle : TransferSourceBundle}
    (h : registry.findBundle offerId = some bundle) :
    ∃ entry ∈ registry.entries, entry.bundle.offerId = offerId ∧ entry.bundle = bundle := by
  obtain ⟨entry, hfind, rfl⟩ := Option.map_eq_some_iff.mp h
  have hoffer := List.find?_some hfind
  exact ⟨entry, List.mem_of_find?_eq_some hfind, eq_of_beq hoffer, rfl⟩

/-- A source that a lookup finds is one of the bundle under the offer. -/
theorem exists_of_lookupSource {request : TransferReadRequest} {source : TransferSource}
    (h : (registry.lookupSource request).source = some source) :
    ∃ bundle, registry.findBundle request.offerId = some bundle ∧ some source ∈ bundle.sources := by
  unfold lookupSource at h
  split at h
  · cases h
  cases hfind : registry.findBundle request.offerId with
  | none =>
    rw [hfind] at h
    cases h
  | some bundle =>
    simp only [hfind] at h
    split at h
    · cases h
    cases hsource : bundle.findSource request.sourceId with
    | none =>
      rw [hsource] at h
      cases h
    | some found =>
      simp only [hsource, Option.some_inj] at h
      obtain ⟨entry, hentry, hfilter⟩ := List.exists_of_findSome?_eq_some hsource
      have hsame := (Option.filter_eq_some_iff.mp hfilter).1
      exact ⟨bundle, rfl, by rwa [← h, ← hsame]⟩

/-- Of an offer there is one entry, and it is found. -/
theorem findBundle_of_mem (hsound : OffersSound registry) {entry : RegistryEntry}
    (hentry : entry ∈ registry.entries) :
    registry.findBundle entry.bundle.offerId = some entry.bundle := by
  cases hfind : registry.entries.find? fun other =>
      other.bundle.offerId == entry.bundle.offerId with
  | none =>
    have hnone := List.find?_eq_none.mp hfind entry hentry
    exact absurd (beq_self_eq_true _) hnone
  | some found =>
    have hoffer : found.bundle.offerId = entry.bundle.offerId := by
      have hfound := List.find?_some hfind
      exact eq_of_beq hfound
    have hsame : found = entry :=
      List.inj_on_of_nodup_map hsound.nodup (List.mem_of_find?_eq_some hfind) hentry hoffer
    rw [findBundle, hfind, hsame]
    rfl

/-! ## Clearing an offer -/

/-- An entry that `clearOffer` keeps is one from before, retired if it is of the offer. -/
theorem mem_clearOffer {entry : RegistryEntry} :
    entry ∈ (registry.clearOffer offerId).2.entries ↔
      (∃ old ∈ registry.entries, retire offerId old = entry) ∧
        (entry.retired && entry.locks.isEmpty) = false := by
  unfold clearOffer
  rw [List.mem_filter, List.mem_map, Bool.not_eq_true']

/-- Where the entries of the offer have no lock, none is left. -/
theorem ne_of_mem_clearOffer
    (hlocks : ∀ entry ∈ registry.entries, entry.bundle.offerId = offerId → entry.locks = [])
    {entry : RegistryEntry} (h : entry ∈ (registry.clearOffer offerId).2.entries) :
    entry.bundle.offerId ≠ offerId := by
  obtain ⟨⟨old, hold, rfl⟩, hkept⟩ := mem_clearOffer.mp h
  intro heq
  rw [retire_offerId] at heq
  rw [retire_locks, hlocks old hold heq, retire, if_pos heq] at hkept
  cases hkept

/-- **Clearing an offer that becomes an own one**, if it is one already or has no lock. -/
theorem restrictTo_clearOffer_cons
    (hlocks : offerId ∉ own → ∀ entry ∈ registry.entries, entry.bundle.offerId = offerId →
      entry.locks = []) :
    (registry.clearOffer offerId).2.restrictTo (offerId :: own) =
      ((registry.restrictTo own).clearOffer offerId).2 := by
  ext : 1
  · simp only [clearOffer, restrictTo]
    generalize registry.entries = entries at hlocks
    induction entries with
    | nil => rfl
    | cons entry entries ih =>
      have hrest := ih fun hown other hother => hlocks hown other (List.mem_cons_of_mem _ hother)
      have hhead := fun hown => hlocks hown entry List.mem_cons_self
      rw [List.map_cons, List.filter_cons, List.filter_cons]
      by_cases hmem : entry.bundle.offerId ∈ own
      · have hisOwn : isOwn own entry = true := by simp [isOwn, hmem]
        have hcons : isOwn (offerId :: own) (retire offerId entry) = true := by
          simp [isOwn, hmem]
        rw [hisOwn, if_pos rfl, List.map_cons, List.filter_cons, ← hrest]
        split
        · rw [List.filter_cons, if_pos hcons]
        · rfl
      · have hisOwn : isOwn own entry = false := by simp [isOwn, hmem]
        rw [hisOwn, if_neg Bool.false_ne_true, ← hrest]
        by_cases heq : entry.bundle.offerId = offerId
        · have hgone : (!((retire offerId entry).retired &&
              (retire offerId entry).locks.isEmpty)) = false := by
            have hempty := hhead (heq ▸ hmem) heq
            simp [retire, heq, hempty]
          rw [hgone, if_neg Bool.false_ne_true]
        · have hother : isOwn (offerId :: own) (retire offerId entry) = false := by
            simp [isOwn, hmem, heq]
          split
          · rw [List.filter_cons, hother, if_neg Bool.false_ne_true]
          · rfl
  · rfl

/-- **Clearing an own offer.** -/
theorem restrictTo_clearOffer (h : offerId ∈ own) :
    (registry.clearOffer offerId).2.restrictTo own =
      ((registry.restrictTo own).clearOffer offerId).2 := by
  rw [← @restrictTo_cons_of_mem (registry.clearOffer offerId).2 own offerId h]
  exact restrictTo_clearOffer_cons fun hnot => absurd h hnot

/-- **Clearing another offer.** -/
theorem restrictTo_clearOffer_foreign (hsound : OffersSound registry) (h : offerId ∉ own) :
    (registry.clearOffer offerId).2.restrictTo own = registry.restrictTo own := by
  have hlocked := hsound.retired_locked
  ext : 1
  · simp only [clearOffer, restrictTo]
    generalize registry.entries = entries at hlocked
    induction entries with
    | nil => rfl
    | cons entry entries ih =>
      have hrest := ih fun other hother => hlocked other (List.mem_cons_of_mem _ hother)
      rw [List.map_cons, List.filter_cons, List.filter_cons]
      by_cases hmem : entry.bundle.offerId ∈ own
      · have hne : entry.bundle.offerId ≠ offerId := fun heq => h (heq ▸ hmem)
        have hkept : (!(entry.retired && entry.locks.isEmpty)) = true := by
          cases hretired : entry.retired with
          | false => rfl
          | true =>
            have hne := hlocked entry List.mem_cons_self hretired
            simpa using hne
        have hisOwn : isOwn own entry = true := by simp [isOwn, hmem]
        rw [retire_of_ne hne, hkept, if_pos rfl, List.filter_cons, hisOwn, if_pos rfl, hrest,
          if_pos rfl]
      · have hisOwn : isOwn own entry = false := by simp [isOwn, hmem]
        have hretired : isOwn own (retire offerId entry) = false := by simp [isOwn, hmem]
        rw [hisOwn, if_neg Bool.false_ne_true, ← hrest]
        split
        · rw [List.filter_cons, hretired, if_neg Bool.false_ne_true]
        · rfl
  · rfl

/-- Clearing leaves the other entries inert. -/
theorem ForeignInert.clearOffer (h : ForeignInert own registry) (offerId : TransferOfferId) :
    ForeignInert own (registry.clearOffer offerId).2 := by
  intro entry hentry hforeign
  obtain ⟨⟨old, hold, rfl⟩, -⟩ := mem_clearOffer.mp hentry
  rw [retire_offerId] at hforeign
  have hinert := h old hold hforeign
  refine ⟨by rw [retire_locks, hinert.locks], ?_⟩
  rw [bundle_retire]
  exact hinert.reads

/-! ## Storing a bundle -/

variable {bundle : TransferSourceBundle}

/-- The bundle has what `store` asks for. -/
def storable (bundle : TransferSourceBundle) : Bool :=
  !(bundle.bundleId == 0 || bundle.offerId == 0)

theorem store_of_not_storable (h : storable bundle = false) :
    registry.store bundle = (.invalidArgument, registry) := by
  have hinvalid : bundle.bundleId = 0 ∨ bundle.offerId = 0 := by
    simpa [storable, ← or_iff_not_imp_left] using h
  rw [store, if_pos hinvalid]

theorem store_of_storable (h : storable bundle = true) :
    registry.store bundle =
      let cleared := (registry.clearOffer bundle.offerId).2
      if cleared.entries.any fun entry => entry.bundle.offerId == bundle.offerId then
        (.conflict, cleared)
      else (.ok, { cleared with entries := cleared.entries ++ [{ bundle := bundle }] }) := by
  have hvalid : ¬(bundle.bundleId = 0 ∨ bundle.offerId = 0) := by simpa [storable] using h
  rw [store, if_neg hvalid]

/-- **Storing a bundle whose offer becomes an own one**: the same status, and the same entries of
the own offers. -/
theorem restrictTo_store (hstorable : storable bundle = true)
    (hlocks : bundle.offerId ∉ own → ∀ entry ∈ registry.entries,
      entry.bundle.offerId = bundle.offerId → entry.locks = []) :
    ((registry.store bundle).1, (registry.store bundle).2.restrictTo (bundle.offerId :: own)) =
      (registry.restrictTo own).store bundle := by
  rw [store_of_storable hstorable, store_of_storable hstorable, ← restrictTo_clearOffer_cons hlocks]
  have hany : ((((registry.clearOffer bundle.offerId).2.restrictTo
      (bundle.offerId :: own)).entries.any fun entry => entry.bundle.offerId == bundle.offerId)) =
      ((registry.clearOffer bundle.offerId).2.entries.any fun entry =>
        entry.bundle.offerId == bundle.offerId) := by
    rw [restrictTo, List.any_filter]
    refine List.any_congr rfl fun entry => ?_
    by_cases heq : entry.bundle.offerId = bundle.offerId
    · simp [isOwn, heq]
    · simp [heq]
  simp only [hany]
  split
  · rfl
  · refine Prod.ext rfl ?_
    ext : 1
    · simp [restrictTo, isOwn]
    · rfl

/-- What a bundle is refused with does not hang on the other offers. -/
theorem status_store
    (hlocks : bundle.offerId ∉ own → ∀ entry ∈ registry.entries,
      entry.bundle.offerId = bundle.offerId → entry.locks = []) :
    ((registry.restrictTo own).store bundle).1 = (registry.store bundle).1 := by
  cases hstorable : storable bundle with
  | false => rw [store_of_not_storable hstorable, store_of_not_storable hstorable]
  | true => rw [← restrictTo_store hstorable hlocks]

/-- **Storing a bundle of another offer.** -/
theorem restrictTo_store_foreign (hsound : OffersSound registry) (h : bundle.offerId ∉ own) :
    (registry.store bundle).2.restrictTo own = registry.restrictTo own := by
  rcases store_cases registry bundle with heq | heq | ⟨-, heq⟩
  · rw [heq]
  · rw [heq, restrictTo_clearOffer_foreign hsound h]
  · rw [heq, ← restrictTo_clearOffer_foreign hsound h]
    ext : 1
    · simp [restrictTo, isOwn, h]
    · rfl

/-- An entry behind `store` was there before, perhaps not retired, or it is the new one. -/
theorem mem_store {entry : RegistryEntry} (h : entry ∈ (registry.store bundle).2.entries) :
    (∃ old ∈ registry.entries, old.bundle = entry.bundle ∧ old.locks = entry.locks) ∨
      entry = { bundle := bundle } := by
  have hclear : ∀ entry ∈ (registry.clearOffer bundle.offerId).2.entries,
      ∃ old ∈ registry.entries, old.bundle = entry.bundle ∧ old.locks = entry.locks := by
    intro entry hentry
    obtain ⟨⟨old, hold, rfl⟩, -⟩ := mem_clearOffer.mp hentry
    exact ⟨old, hold, (bundle_retire _ _).symm, (retire_locks _ _).symm⟩
  rcases store_cases registry bundle with heq | heq | ⟨-, heq⟩
  · rw [heq] at h
    exact Or.inl ⟨entry, h, rfl, rfl⟩
  · rw [heq] at h
    exact Or.inl (hclear entry h)
  · rw [heq] at h
    rcases List.mem_append.mp h with hold | hnew
    · exact Or.inl (hclear entry hold)
    · exact Or.inr (List.mem_singleton.mp hnew)

/-- Of the offer of a bundle that is stored there is the new entry only. -/
theorem eq_of_mem_store (hok : (registry.store bundle).1 = .ok) {entry : RegistryEntry}
    (hentry : entry ∈ (registry.store bundle).2.entries)
    (hoffer : entry.bundle.offerId = bundle.offerId) : entry = { bundle := bundle } := by
  cases hstorable : storable bundle with
  | false =>
    rw [store_of_not_storable hstorable] at hok
    cases hok
  | true =>
    rw [store_of_storable hstorable] at hok hentry
    by_cases hblocked : ((registry.clearOffer bundle.offerId).2.entries.any
        fun entry => entry.bundle.offerId == bundle.offerId) = true
    · simp only [if_pos hblocked] at hok
      cases hok
    · simp only [if_neg hblocked] at hentry
      rcases List.mem_append.mp hentry with hold | hnew
      · refine absurd ?_ hblocked
        exact List.any_eq_true.mpr ⟨entry, hold, beq_iff_eq.mpr hoffer⟩
      · exact List.mem_singleton.mp hnew

/-- Where a bundle is stored and its offer cleared at once, no entry of the offer is left. -/
theorem ne_of_mem_store_clearOffer (hok : (registry.store bundle).1 = .ok) {entry : RegistryEntry}
    (hentry : entry ∈ ((registry.store bundle).2.clearOffer bundle.offerId).2.entries) :
    entry.bundle.offerId ≠ bundle.offerId := by
  refine ne_of_mem_clearOffer (fun other hother hoffer => ?_) hentry
  rw [eq_of_mem_store hok hother hoffer]

/-- An inert bundle leaves the others inert, and so does one whose offer becomes an own one. -/
theorem ForeignInert.store (h : ForeignInert own registry)
    (hnew : bundle.offerId ∈ own ∨ Inert { bundle := bundle }) :
    ForeignInert own (registry.store bundle).2 := by
  intro entry hentry hforeign
  rcases mem_store hentry with ⟨old, hold, hbundle, hlocks⟩ | rfl
  · have hinert := h old hold (hbundle ▸ hforeign)
    exact ⟨hlocks ▸ hinert.locks, hbundle ▸ hinert.reads⟩
  · exact hnew.resolve_left hforeign

/-! ## Locks -/

variable {now : Moment} {request : TransferObjectLockRequest}

theorem bundle_lockEntry {entry after : RegistryEntry}
    (h : (registry.lockEntry now request entry).2 = some after) : after.bundle = entry.bundle := by
  cases htakes : takesLock now request entry with
  | false =>
    obtain ⟨result, hentry, -⟩ := @lockEntry_of_not_takesLock registry now request entry htakes
    rw [hentry] at h
    cases h
    rfl
  | true =>
    obtain ⟨result, next, -, -, hentry⟩ :=
      @lockEntry_of_takesLock registry now request entry htakes
    rw [hentry] at h
    cases h
    rfl

/-- **Locking a file of an own offer.** -/
theorem restrictTo_lockObject (h : request.offerId ∈ own) :
    (registry.restrictTo own).lockObject now request =
      ((registry.lockObject now request).1,
        (registry.lockObject now request).2.restrictTo own) := by
  have hloop := @updateFirst_filter RegistryEntry _
    (fun entry => entry.bundle.offerId == request.offerId) (registry.lockEntry now request)
    (isOwn own) (fun entry hentry => by simp [isOwn, eq_of_beq hentry, h])
    (fun entry after hentry hafter => by
      simp [isOwn, bundle_lockEntry hafter, eq_of_beq hentry, h]) registry.entries
  have hlock : (registry.restrictTo own).lockEntry now request =
      registry.lockEntry now request := rfl
  unfold lockObject
  split
  · rfl
  · rw [hlock]
    simp only [restrictTo]
    rw [hloop]
    cases hupdate : updateFirst (fun entry => entry.bundle.offerId == request.offerId)
        (registry.lockEntry now request) registry.entries with
    | mk answer entries =>
      cases answer with
      | none => rfl
      | some answer => rfl

/-- **No lock is taken at an entry whose sources read nothing.** -/
theorem lockObject_foreign (hinert : ForeignInert own registry) (h : request.offerId ∉ own) :
    (registry.lockObject now request).2 = registry := by
  rcases lockObject_cases registry now request with ⟨-, heq⟩ | ⟨before, behind, entry, hlocked⟩
  · exact heq
  · exfalso
    have hentry : entry ∈ registry.entries := by
      rw [hlocked.entries_eq]
      exact List.mem_append_right _ List.mem_cons_self
    have hreads := (hinert entry hentry (hlocked.offer_eq ▸ h)).reads
    have htakes := hlocked.takes
    simp only [takesLock, Bool.and_eq_true, Option.any_eq_true] at htakes
    obtain ⟨-, source, hsource, hvalid⟩ := htakes
    have hunread := hreads request.sourceId source hsource now
    unfold validateFileObjectForLock at hvalid
    split at hvalid
    · cases hvalid
    · simp only [hunread] at hvalid
      split at hvalid <;> simp_all [TransferObjectLockResult.ok, objectLockError,
        TransferReadResult.ok, ResponseStatus.unsupported, ResponseStatus.ok]

theorem bundle_unlockEntry {entry after : RegistryEntry}
    (h : (unlockEntry request entry).2 = some after) : after.bundle = entry.bundle := by
  unfold unlockEntry at h
  split at h
  · cases h
    rfl
  · split at h
    · cases h
      rfl
    · simp only at h
      split at h
      · cases h
      · cases h
        rfl

/-- **Unlocking a file of an own offer.** -/
theorem restrictTo_unlockObject (h : request.offerId ∈ own) :
    (registry.restrictTo own).unlockObject request =
      ((registry.unlockObject request).1, (registry.unlockObject request).2.restrictTo own) := by
  have hloop := @updateFirst_filter RegistryEntry _
    (fun entry => entry.bundle.offerId == request.offerId) (unlockEntry request)
    (isOwn own) (fun entry hentry => by simp [isOwn, eq_of_beq hentry, h])
    (fun entry after hentry hafter => by
      simp [isOwn, bundle_unlockEntry hafter, eq_of_beq hentry, h]) registry.entries
  unfold unlockObject
  split
  · rfl
  · simp only [restrictTo]
    rw [hloop]
    cases hupdate : updateFirst (fun entry => entry.bundle.offerId == request.offerId)
        (unlockEntry request) registry.entries with
    | mk answer entries =>
      cases answer with
      | none => rfl
      | some answer => rfl

/-- **There is nothing to unlock at an entry without locks.** -/
theorem unlockObject_foreign (hinert : ForeignInert own registry) (h : request.offerId ∉ own) :
    (registry.unlockObject request).2 = registry := by
  unfold unlockObject
  split
  · rfl
  · cases hfind : registry.entries.find? fun entry =>
        entry.bundle.offerId == request.offerId with
    | none => rw [updateFirst_of_none hfind]
    | some entry =>
      obtain ⟨before, behind, hentries, -, hoffer, hupdate⟩ :=
        exists_split_of_find? (f := unlockEntry request) hfind
      have hlocks := (hinert entry (List.mem_of_find?_eq_some hfind)
        (eq_of_beq hoffer ▸ h)).locks
      have hkept : (unlockEntry request entry).2 = some entry := by
        unfold unlockEntry
        split
        · rfl
        · rw [hlocks]
          rfl
      rw [hupdate, hkept]
      simp only [Option.toList_some, List.singleton_append]
      rw [← hentries]

theorem ForeignInert.lockObject (h : ForeignInert own registry) (now : Moment)
    (request : TransferObjectLockRequest) :
    ForeignInert own (registry.lockObject now request).2 := by
  by_cases hown : request.offerId ∈ own
  · rcases lockObject_cases registry now request with ⟨-, heq⟩ | ⟨before, behind, entry, hlocked⟩
    · rwa [heq]
    · intro other hother hforeign
      rw [hlocked.after_eq, List.mem_append, List.mem_cons] at hother
      have hold : ∀ other, other ∈ before ∨ other ∈ behind → other ∈ registry.entries := by
        intro other hmem
        rw [hlocked.entries_eq, List.mem_append, List.mem_cons]
        exact hmem.imp id Or.inr
      rcases hother with hbefore | rfl | hbehind
      · exact h other (hold other (Or.inl hbefore)) hforeign
      · exact absurd (hlocked.offer_eq ▸ hown) hforeign
      · exact h other (hold other (Or.inr hbehind)) hforeign
  · rwa [lockObject_foreign h hown]

theorem ForeignInert.unlockObject (h : ForeignInert own registry)
    (request : TransferObjectLockRequest) : ForeignInert own (registry.unlockObject request).2 := by
  rcases unlockObject_cases registry request with
    ⟨-, heq⟩ | ⟨before, behind, entry, lock, hunlocked⟩
  · rwa [heq]
  · intro other hother hforeign
    have hold : ∀ other, other ∈ before ∨ other = entry ∨ other ∈ behind →
        other ∈ registry.entries := by
      intro other hmem
      rwa [hunlocked.entries_eq, List.mem_append, List.mem_cons]
    rw [hunlocked.after_eq, List.mem_append, List.mem_append] at hother
    rcases hother with hbefore | hleft | hbehind
    · exact h other (hold other (Or.inl hbefore)) hforeign
    · have heq := (mem_unlockedEntry hleft).1
      rw [heq] at hforeign
      have hinert := h entry (hold entry (Or.inr (Or.inl rfl))) hforeign
      have hmem := hunlocked.lock_mem
      rw [hinert.locks] at hmem
      cases hmem
    · exact h other (hold other (Or.inr (Or.inr hbehind))) hforeign

/-! ## No bundle that was not there -/

/-- Every bundle of the second registry is one of the first. -/
def Keeps (before after : InMemoryTransferSourceRegistry) : Prop :=
  ∀ entry ∈ after.entries, ∃ old ∈ before.entries, old.bundle = entry.bundle

theorem Keeps.refl (registry : InMemoryTransferSourceRegistry) : Keeps registry registry :=
  fun entry hentry => ⟨entry, hentry, rfl⟩

theorem Keeps.trans {r r' r'' : InMemoryTransferSourceRegistry} (h : Keeps r r')
    (h' : Keeps r' r'') : Keeps r r'' := by
  intro entry hentry
  obtain ⟨old, hold, heq⟩ := h' entry hentry
  obtain ⟨older, holder, heq'⟩ := h old hold
  exact ⟨older, holder, heq'.trans heq⟩

theorem keeps_clearOffer (registry : InMemoryTransferSourceRegistry) (offerId : TransferOfferId) :
    Keeps registry (registry.clearOffer offerId).2 := by
  intro entry hentry
  obtain ⟨⟨old, hold, rfl⟩, -⟩ := mem_clearOffer.mp hentry
  exact ⟨old, hold, (bundle_retire offerId old).symm⟩

theorem keeps_lockObject (registry : InMemoryTransferSourceRegistry) (now : Moment)
    (request : TransferObjectLockRequest) :
    Keeps registry (registry.lockObject now request).2 := by
  rcases lockObject_cases registry now request with ⟨-, heq⟩ | ⟨before, behind, entry, hlocked⟩
  · rw [heq]
    exact Keeps.refl registry
  · intro other hother
    rw [hlocked.after_eq, List.mem_append, List.mem_cons] at hother
    rw [hlocked.entries_eq]
    rcases hother with hbefore | rfl | hbehind
    · exact ⟨other, List.mem_append_left _ hbefore, rfl⟩
    · exact ⟨entry, List.mem_append_right _ List.mem_cons_self, rfl⟩
    · exact ⟨other, List.mem_append_right _ (List.mem_cons_of_mem _ hbehind), rfl⟩

theorem keeps_unlockObject (registry : InMemoryTransferSourceRegistry)
    (request : TransferObjectLockRequest) :
    Keeps registry (registry.unlockObject request).2 := by
  rcases unlockObject_cases registry request with
    ⟨-, heq⟩ | ⟨before, behind, entry, lock, hunlocked⟩
  · rw [heq]
    exact Keeps.refl registry
  · intro other hother
    rw [hunlocked.after_eq, List.mem_append, List.mem_append] at hother
    rw [hunlocked.entries_eq]
    rcases hother with hbefore | hleft | hbehind
    · exact ⟨other, List.mem_append_left _ hbefore, rfl⟩
    · rw [(mem_unlockedEntry hleft).1]
      exact ⟨entry, List.mem_append_right _ List.mem_cons_self, rfl⟩
    · exact ⟨other, List.mem_append_right _ (List.mem_cons_of_mem _ hbehind), rfl⟩

/-- What `store` adds is the bundle. -/
theorem bundle_mem_store {entry : RegistryEntry}
    (h : entry ∈ (registry.store bundle).2.entries) :
    (∃ old ∈ registry.entries, old.bundle = entry.bundle) ∨ entry.bundle = bundle := by
  rcases mem_store h with ⟨old, hold, heq, -⟩ | rfl
  · exact Or.inl ⟨old, hold, heq⟩
  · exact Or.inr rfl

/-- A bundle that is refused is not added. -/
theorem keeps_store_refused (h : (registry.store bundle).1 ≠ .ok) :
    Keeps registry (registry.store bundle).2 := by
  cases hstorable : storable bundle with
  | false =>
    rw [store_of_not_storable hstorable]
    exact Keeps.refl registry
  | true =>
    rw [store_of_storable hstorable] at h ⊢
    simp only at h ⊢
    split
    · exact keeps_clearOffer registry bundle.offerId
    · next hfree => simp only [if_neg hfree, ne_eq, not_true_eq_false] at h

/-- A bundle that is stored and cleared at once is not added. -/
theorem keeps_store_clearOffer (hok : (registry.store bundle).1 = .ok) :
    Keeps registry ((registry.store bundle).2.clearOffer bundle.offerId).2 := by
  intro entry hentry
  have hne := ne_of_mem_store_clearOffer hok hentry
  obtain ⟨⟨stored, hstored, rfl⟩, -⟩ := mem_clearOffer.mp hentry
  rcases bundle_mem_store hstored with ⟨old, hold, heq⟩ | hnew
  · exact ⟨old, hold, heq.trans (bundle_retire _ _).symm⟩
  · rw [retire_offerId, hnew] at hne
    exact absurd rfl hne

/-- **A bundle that is refused leaves what is found as it was.** -/
theorem findBundle_store_refused (hsound : OffersSound registry)
    (h : (registry.store bundle).1 ≠ .ok) (offerId : TransferOfferId) :
    (registry.store bundle).2.findBundle offerId = registry.findBundle offerId := by
  by_cases hother : bundle.offerId ∈ [offerId]
  · have heq : bundle.offerId = offerId := List.mem_singleton.mp hother
    cases hstorable : storable bundle with
    | false => rw [store_of_not_storable hstorable]
    | true =>
      rw [store_of_storable hstorable] at h ⊢
      by_cases hblocked : ((registry.clearOffer bundle.offerId).2.entries.any
          fun entry => entry.bundle.offerId == bundle.offerId) = true
      · simp only [if_pos hblocked]
        obtain ⟨entry, hentry, hoffer⟩ := List.any_eq_true.mp hblocked
        have hfound := findBundle_of_mem (hsound.clearOffer bundle.offerId) hentry
        obtain ⟨old, hold, hbundle⟩ := keeps_clearOffer registry bundle.offerId entry hentry
        have hfound' := findBundle_of_mem hsound hold
        rw [hbundle] at hfound'
        rw [eq_of_beq hoffer, heq] at hfound hfound'
        rw [heq, hfound, hfound']
      · simp only [if_neg hblocked, ne_eq, not_true_eq_false] at h
  · have hrestrict := restrictTo_store_foreign hsound hother
    rw [← findBundle_restrictTo (List.mem_singleton_self offerId), hrestrict,
      findBundle_restrictTo (List.mem_singleton_self offerId)]

/-- **A bundle that is stored and cleared leaves what is found of other offers as it was.** -/
theorem findBundle_store_clearOffer (hsound : OffersSound registry)
    (hother : bundle.offerId ≠ offerId) :
    ((registry.store bundle).2.clearOffer bundle.offerId).2.findBundle offerId =
      registry.findBundle offerId := by
  have hforeign : bundle.offerId ∉ [offerId] := fun hmem => hother (List.mem_singleton.mp hmem)
  rw [← findBundle_restrictTo (List.mem_singleton_self offerId),
    restrictTo_clearOffer_foreign (hsound.store bundle) hforeign,
    restrictTo_store_foreign hsound hforeign,
    findBundle_restrictTo (List.mem_singleton_self offerId)]

/-- After `releaseAllLocks` and `clearAll` nothing is left. -/
theorem entries_clearAll_releaseAllLocks (registry : InMemoryTransferSourceRegistry) :
    registry.releaseAllLocks.2.clearAll.2 = { registry with entries := [] } := by
  ext : 1
  · simp only [releaseAllLocks, clearAll]
    rw [List.filter_eq_nil_iff]
    intro entry hentry
    obtain ⟨old, hold, rfl⟩ := List.mem_map.mp hentry
    obtain ⟨first, -, rfl⟩ := List.mem_map.mp (List.mem_filter.mp hold).1
    simp
  · rfl

end InMemoryTransferSourceRegistry

/-- **The entry of a peer's offer is inert.** -/
theorem inert_remote (list : FdclFormatList) (presentation : Option TransferPresentation) :
    Inert { bundle := { makeRemoteBundleFromFormatList list with presentation := presentation } }
    where
  locks := rfl
  reads := by
    intro sourceId source hsource now request
    obtain ⟨entry, hentry, hfilter⟩ := List.exists_of_findSome?_eq_some hsource
    obtain ⟨item, -, rfl⟩ := List.mem_map.mp hentry
    have hsame := (Option.filter_eq_some_iff.mp hfilter).1
    rw [Option.some_inj] at hsame
    rw [← hsame]
    rfl

end Clipboard
end FusionDesk
