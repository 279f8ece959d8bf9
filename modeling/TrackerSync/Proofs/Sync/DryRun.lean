import TrackerSync.Proofs.Sync.Footprint

/-!
Dry runs write nothing and send no `PATCH`, apart from evicting cache entries they read.
-/

namespace TrackerSync

theorem World.Along.refl {S : Store → Store → Prop} {T : Remote.Tracker → Remote.Tracker → Prop}
    [IsPreorder Store S] [IsPreorder Remote.Tracker T] (w : World) : World.Along S T w w :=
  ⟨Std.Refl.refl _, Std.Refl.refl _⟩

namespace SyncM

section Dry

variable {S : Store → Store → Prop} {T : Remote.Tracker → Remote.Tracker → Prop}
  [IsPreorder Store S] [IsPreorder Remote.Tracker T] {r : Runner} (dry : r.options.dryRun = true)
  (other : ∀ w, World.Along S T w (r.onApply w))
  (gets : ∀ path params, Stays S T (r.send .get path params))

end Dry

end SyncM

end TrackerSync
