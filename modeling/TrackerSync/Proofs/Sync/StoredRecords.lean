import TrackerSync.Sync.Cache
import TrackerSync.Sync.State
import TrackerSync.Proofs.Sync.LinkTable
import TrackerSync.Proofs.Snapshot.Codec

/-!
The stored records of a pair read back as written: a cache entry and a base whose snapshot's
update time the calendar holds decode from their compact text as themselves.
-/

namespace TrackerSync

namespace CacheEntry

/-- An entry whose snapshot's update time the calendar holds and whose fetch time has 64 bits
reads back from its text under any key as itself, under that key. -/
theorem decode_compact (remoteId : String) (e : CacheEntry) (timed : e.snapshot.TimesValid)
    (stamp : i64Min ≤ e.fetchedAt ∧ e.fetchedAt ≤ i64Max) :
    decode remoteId (Json.compact e.toJson) = .ok { e with remoteId } := by
  obtain ⟨j, reads, back⟩ := Snapshot.readsAs_toJson e.snapshot timed
  have fits : Json.ReadsFields (e.snapshot.labels.length + 10) 4
      [("snapshot", Snapshot.shape, .required), ("fetched_at", Entity.i64Shape, .required)]
      [("snapshot", e.snapshot.toJson, j),
        ("fetched_at", Json.ofInt e.fetchedAt, Json.ofInt e.fetchedAt)] := by
    refine ⟨?_, by simp, by simp⟩
    intro m mem
    simp only [List.mem_cons, List.not_mem_nil, or_false] at mem
    rcases mem with rfl | rfl
    · exact ⟨_, rfl, reads⟩
    · refine ⟨_, rfl, (Json.ReadsAs.of_readsBack
        (Json.readsBack_ofInt _ (by decide) (by decide) ?_)).mono (by omega) (by omega)⟩
      unfold i64Min i64Max at stamp
      omega
  have entry := Json.readsAs_record "CacheEntry" _ fits (by simp)
  simp only [List.map_cons, List.map_nil, List.length_cons, List.length_nil] at entry
  have labels := Snapshot.length_labels_le e.snapshot
  have nested : (Json.compact e.snapshot.toJson).toList.length ≤
      (Json.compact (.obj [("snapshot", e.snapshot.toJson),
        ("fetched_at", Json.ofInt e.fetchedAt)])).toList.length := by
    rw [Json.toList_compact_obj]
    simp only [List.flatMap_cons, List.flatMap_nil, Json.memberChars, List.length_cons,
      List.length_append]
    omega
  rw [decode, shape, show e.toJson = .obj [("snapshot", e.snapshot.toJson),
    ("fetched_at", Json.ofInt e.fetchedAt)] from rfl,
    Json.Shape.decode_readsAs entry (by omega) (by decide)]
  simp [Json.get?, Json.mkObj, Obj.get?_ofList, back, Entity.intOf_ofInt]

end CacheEntry

namespace StoredBase

/-- A base whose snapshot's update time the calendar holds reads back from its text as itself. -/
theorem decode_compact (b : StoredBase) (timed : b.snapshot.TimesValid) :
    decode (Json.compact b.toJson) = .ok b := by
  obtain ⟨j, reads, back⟩ := Snapshot.readsAs_toJson b.snapshot timed
  have fits : Json.ReadsFields (b.snapshot.labels.length + 10) 4
      [("snapshot", Snapshot.shape, .required), ("fingerprint", .text, .required)]
      [("snapshot", b.snapshot.toJson, j), ("fingerprint", .str b.fingerprint, .str b.fingerprint)] := by
    refine ⟨?_, by simp, by simp⟩
    intro m mem
    simp only [List.mem_cons, List.not_mem_nil, or_false] at mem
    rcases mem with rfl | rfl
    · exact ⟨_, rfl, reads⟩
    · exact ⟨_, rfl, (Json.ReadsAs.of_readsBack (Json.readsBack_text _)).mono (by omega) (by omega)⟩
  have base := Json.readsAs_record "StoredBase" _ fits (by simp)
  simp only [List.map_cons, List.map_nil, List.length_cons, List.length_nil] at base
  have labels := Snapshot.length_labels_le b.snapshot
  have nested : (Json.compact b.snapshot.toJson).toList.length ≤
      (Json.compact (.obj [("snapshot", b.snapshot.toJson),
        ("fingerprint", .str b.fingerprint)])).toList.length := by
    rw [Json.toList_compact_obj]
    simp only [List.flatMap_cons, List.flatMap_nil, Json.memberChars, List.length_cons,
      List.length_append]
    omega
  rw [decode, shape, show b.toJson = .obj [("snapshot", b.snapshot.toJson),
    ("fingerprint", .str b.fingerprint)] from rfl,
    Json.Shape.decode_readsAs base (by omega) (by decide)]
  simp [Except.map, Json.get?, Json.getStr?, Json.mkObj, Obj.get?_ofList, back]

end StoredBase

namespace SyncState

variable {s : Store} {remoteId : String}

/-- A base stored as its compact text loads back as itself. -/
theorem loadBase_of_stored {b : StoredBase}
    (stored : s.get nsBase remoteId = some (Json.compact b.toJson)) (timed : b.snapshot.TimesValid) :
    loadBase s remoteId = .ok (some b) := by
  rw [loadBase, stored]
  simp only [StoredBase.decode_compact b timed, Except.map, Except.mapError]

end SyncState

end TrackerSync
