import ProcessBridge.Snapshotter.MapsParser

/-! Writing the snapshot file: the process state, then for every mapping that is
not special its header and its content, copied in chunks of at most one
buffer. -/

set_option autoImplicit false

namespace ProcessBridge.Snapshotter

open Library Common

variable {arch : Arch}

theorem bufferSize_pos : 0 < bufferSize := by decide

def Buffer.zero (buffer : Buffer) (size : Nat) : Buffer :=
  ⟨List.replicate (min size bufferSize) 0 ++ buffer.val.drop size, by
    have full := buffer.property
    simp only [List.length_append, List.length_replicate, List.length_drop, full]
    omega⟩

/-- One `process_vm_readv`; a failed or short read is replaced by zeros. -/
def readChunk (address : BitVec arch.width) (chunk : Nat) (buffer : Buffer) : Sys arch Buffer := do
  let (result, buffer) ← call (.processVmReadv address chunk buffer)
  if result = some chunk then pure buffer else pure (Buffer.zero buffer chunk)

/-- The loop over the chunks of one mapping. -/
def copyContent (readable : Bool) (address : BitVec arch.width) (remaining : Nat)
    (buffer : Buffer) : Sys arch Buffer :=
  if remaining = 0 then pure buffer
  else
    let chunk := if remaining > bufferSize then bufferSize else remaining
    do
      let buffer ← (if readable then readChunk address chunk buffer else pure buffer)
      ensure (call (.write (buffer.val.take chunk)))
        "fwrite of %zu bytes of mapping content failed"
      copyContent readable (address + BitVec.ofNat _ chunk) (remaining - chunk) buffer
termination_by remaining
decreasing_by
  have positive := bufferSize_pos
  split <;> omega

/-- `[vvar]`, `[vsyscall]` and `[vvar_vclock]`. -/
def specialPaths : List (List Byte) :=
  [[0x5B, 0x76, 0x76, 0x61, 0x72, 0x5D],
    [0x5B, 0x76, 0x73, 0x79, 0x73, 0x63, 0x61, 0x6C, 0x6C, 0x5D],
    [0x5B, 0x76, 0x76, 0x61, 0x72, 0x5F, 0x76, 0x63, 0x6C, 0x6F, 0x63, 0x6B, 0x5D]]

/-- The body of the loop in `dump_mappings_content`. -/
def dumpMapping (entry : MapsEntry) (buffer : Buffer) : Sys arch Buffer :=
  if cString entry.path ∈ specialPaths then pure buffer
  else do
    ensure (call (.write entry.bytes)) "fwrite of maps_entry_t header failed"
    let remaining := entry.mappingSize % 2 ^ arch.width
    let buffer := if entry.read = 0 then Buffer.zero buffer (min remaining bufferSize) else buffer
    copyContent (decide (entry.read ≠ 0)) (entry.start.setWidth _) remaining buffer

/-- `dump_mappings_content`. The entry and the buffer start out with whatever the
stack and the heap hold. -/
def dumpMappingsContent (stale : MapsEntry) (buffer : Buffer) (pid : Nat) : Sys arch Unit := do
  let iter ← createMapsIter stale pid
  ensure (call .malloc) "malloc(%d) for the mapping read buffer failed"
  let _ ← forEntries dumpMapping iter.entry iter.file buffer
  let flushed ← call .flush
  exitIf (!flushed) .failure

def dumpSnapshot (stale : MapsEntry) (buffer : Buffer) (snapshot : List Byte) (pid : Nat) :
    Sys arch Unit := do
  ensure (call .openSnapshot) "fopen('%s') for writing failed"
  ensure (call (.write snapshot)) "fwrite of the snapshot header to '%s' failed"
  dumpMappingsContent stale buffer pid
  ensure (call .closeSnapshot) "fclose('%s') failed"

end ProcessBridge.Snapshotter
