import TrackerSync.Snapshot.Codec
import TrackerSync.Json.Print
import TrackerSync.Hash.Sha256

/-!
Fingerprints of snapshots: the SHA-256 of the comparable content, as lower-case hex.
-/

namespace TrackerSync

def Snapshot.contentText (s : Snapshot) : String :=
  String.join (Field.all.map fun f => f.name ++ "=" ++ Json.compact (s.get f).toJson ++ "\n")

def Snapshot.fingerprint (s : Snapshot) : String := Hash.sha256 s.contentText

end TrackerSync
