import FusionDesk.Clipboard.ModelConversion
import FusionDesk.General.Grouping
import Mathlib.Data.List.Nodup
import Mathlib.Data.List.ReduceOption
import Mathlib.Data.Option.Basic

/-!
# A format list as a bundle, and back

The endpoint turns the format list of the peer into a bundle of remote sources, and announces a
bundle by a format list.  One after the other they give the list of the peer with its records
grouped by ascending source id.

* `formatsBySource_eq`: the map of the conversion is the grouping of the records.
* `sourceIds_makeRemoteBundleFromFormatList`: the source ids of the bundle.
* `formatList_remoteBundle_roundTrip`: the list that comes back.
-/

namespace FusionDesk
namespace Clipboard

open Protocol Grouping

/-- The format list of a remote bundle, at the moment `now`. -/
def formatListOfRemote (now : Moment) (list : FdclFormatList) : FdclFormatList :=
  makeFormatListFromBundle now (makeRemoteBundleFromFormatList list)

/-- The record of a format of a remote source. -/
def remoteRecordOf (id : TransferSourceId) (descriptor : TransferFormatDescriptor) :
    FdclFormatRecord :=
  formatRecordOf (remoteFdclTransferSource id []) descriptor

theorem remoteRecordOf_descriptorOf (record : FdclFormatRecord) :
    remoteRecordOf record.sourceId (descriptorOf record) = record := rfl

theorem formatsBySource_eq (formats : List FdclFormatRecord) :
    formatsBySource formats = groups FdclFormatRecord.sourceId descriptorOf formats := rfl

theorem formats_formatListOfRemote (now : Moment) (list : FdclFormatList) :
    (formatListOfRemote now list).formats =
      (groups FdclFormatRecord.sourceId descriptorOf list.formats).toList.flatMap
        fun group => group.2.map (remoteRecordOf group.1) := by
  show ((formatsBySource list.formats).toList.map fun item =>
      some (remoteFdclTransferSource item.1 item.2)).reduceOption.flatMap _ = _
  rw [formatsBySource_eq]
  generalize (groups FdclFormatRecord.sourceId descriptorOf list.formats).toList = items
  induction items with
  | nil => rfl
  | cons item items ih =>
    rw [List.map_cons, List.reduceOption_cons_of_some, List.flatMap_cons, ih, List.flatMap_cons]
    rfl

/-- **The records come back stably grouped.** -/
theorem stablyGrouped_formatListOfRemote (now : Moment) (list : FdclFormatList) :
    StablyGrouped FdclFormatRecord.sourceId list.formats (formatListOfRemote now list).formats := by
  rw [formats_formatListOfRemote]
  exact stablyGrouped_groups list.formats fun record _ => remoteRecordOf_descriptorOf record

/-- Every other field of the list comes back, but for the two that say where it is from. -/
theorem formatListOfRemote_eq (now : Moment) (list : FdclFormatList) :
    formatListOfRemote now list =
      { list with
        origin := .remoteOffer
        side := .remote
        formats := (formatListOfRemote now list).formats } := rfl

theorem formatListOfRemote_idempotent (now later : Moment) (list : FdclFormatList) :
    formatListOfRemote later (formatListOfRemote now list) = formatListOfRemote now list := by
  have hself := StablyGrouped.self (stablyGrouped_formatListOfRemote now list).ascending
  have hagain := stablyGrouped_formatListOfRemote later (formatListOfRemote now list)
  rw [formatListOfRemote_eq later, hagain.unique hself]
  rfl

/-- The source ids of the remote bundle. -/
def sourceIds (bundle : TransferSourceBundle) : List (Option TransferSourceId) :=
  bundle.sources.map fun source => source.map TransferSource.id

theorem sourceIds_makeRemoteBundleFromFormatList (list : FdclFormatList) :
    sourceIds (makeRemoteBundleFromFormatList list) =
      (groups FdclFormatRecord.sourceId descriptorOf list.formats).keys.map some := by
  rw [← Std.ExtTreeMap.map_fst_toList_eq_keys, List.map_map]
  show ((formatsBySource list.formats).toList.map _).map _ = _
  rw [formatsBySource_eq, List.map_map]
  rfl

theorem isLE_compare_sourceId {a b : TransferSourceId} : (compare a b).isLE ↔ a ≤ b :=
  Std.isLE_compare

/-- **A format list turned into a bundle and back** is the list, from the remote side, with its
records grouped by ascending source id and in their old order under each id; the bundle has one
source for each id, and a second turn changes nothing. -/
theorem formatList_remoteBundle_roundTrip (now later : Moment) (list : FdclFormatList) :
    (∃ formats,
      makeFormatListFromBundle now (makeRemoteBundleFromFormatList list) =
        { list with origin := .remoteOffer, side := .remote, formats := formats } ∧
      formats.Perm list.formats ∧
      formats.Pairwise (fun a b => a.sourceId ≤ b.sourceId) ∧
      ∀ id, formats.filter (fun record => record.sourceId = id) =
        list.formats.filter fun record => record.sourceId = id) ∧
    ((sourceIds (makeRemoteBundleFromFormatList list)).Nodup ∧
      ∀ id, id ∈ sourceIds (makeRemoteBundleFromFormatList list) ↔
        ∃ record ∈ list.formats, id = some record.sourceId) ∧
    makeFormatListFromBundle later (makeRemoteBundleFromFormatList
        (makeFormatListFromBundle now (makeRemoteBundleFromFormatList list))) =
      makeFormatListFromBundle now (makeRemoteBundleFromFormatList list) := by
  have hgrouped := stablyGrouped_formatListOfRemote now list
  have hsources := sourceIds_makeRemoteBundleFromFormatList list
  refine ⟨⟨_, formatListOfRemote_eq now list, hgrouped.perm, ?_, fun id => ?_⟩, ⟨?_, fun id => ?_⟩,
    formatListOfRemote_idempotent now later list⟩
  · exact hgrouped.ascending.imp isLE_compare_sourceId.mp
  · exact hgrouped.same id
  · rw [hsources]
    exact List.Nodup.map (Option.some_injective _) Std.ExtTreeMap.nodup_keys
  · rw [hsources, List.mem_map]
    constructor
    · rintro ⟨source, hsource, rfl⟩
      obtain ⟨record, hrecord, rfl⟩ := mem_keys_groups.mp hsource
      exact ⟨record, hrecord, rfl⟩
    · rintro ⟨record, hrecord, rfl⟩
      exact ⟨_, mem_keys_groups.mpr ⟨record, hrecord, rfl⟩, rfl⟩

end Clipboard
end FusionDesk
