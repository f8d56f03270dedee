import ProcessBridge.Snapshot.RoundTrip

/-! Snapshots loaded into an engine of the other mode. Nothing in the file names its
architecture; what rejects it is where the fields of one layout fall in the
other. -/

set_option autoImplicit false

namespace ProcessBridge.Snapshot

open Library Common Utilities Snapshotter Loader

variable {level : LogLevel}

/-!
## A 32-bit snapshot in a 64-bit engine
-/

end ProcessBridge.Snapshot
