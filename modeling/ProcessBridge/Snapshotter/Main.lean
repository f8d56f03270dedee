import ProcessBridge.Snapshotter.ProcessInfo
import ProcessBridge.Snapshotter.Snapshot
import ProcessBridge.Snapshotter.SnapshotDump

/-! The snapshotter from its arguments to its exit. -/

set_option autoImplicit false

namespace ProcessBridge.Snapshotter

open Library Common

/-- `strtoull(text, &end, 16)`: the value, whether it was out of range, and what `end`
points at. Nothing is consumed if there are no digits. -/
def strtoull (text : List Byte) : BitVec 64 × Bool × List Byte :=
  let (negative, unsigned) := scanSign (skipSpace text)
  let digits := scanPrefix unsigned
  let run := digits.takeWhile fun byte => (hexDigit byte).isSome
  if run ≠ [] then
    (hexNumber negative (hexValue run), decide (2 ^ 64 ≤ hexValue run), digits.drop run.length)
  else if unsigned.head? = some 0x30 then (0, false, unsigned.drop 1)
  else (0, false, text)

/-- The address argument, or nothing if `main` rejects it. -/
def parseOffset (text : List Byte) : Option (BitVec 64) :=
  let (value, outOfRange, rest) := strtoull (cString text)
  if outOfRange ∨ rest ≠ [] ∨ rest = cString text then none else some value

/-- Variables that are handed on before anybody has initialised them. -/
structure Locals where
  tls : Tls
  imageEntry : MapsEntry
  dumpEntry : MapsEntry
  buffer : Buffer

/-- `main` after its arguments have been checked. Failures of the last two calls are
only logged. -/
def runTarget (platform : Platform) (locals : Locals) (addr : BitVec platform.arch.width) :
    Sys platform.arch Unit := do
  let pid ← forkChild
  let imageBase ← getImageBase locals.imageEntry pid
  let breakpoint ← createBreakpoint (imageBase.setWidth _ + addr)
  executeUpToBreakpoint breakpoint
  let snapshot ← createSnapshot locals.tls platform
  dumpSnapshot locals.dumpEntry locals.buffer (platform.bytes snapshot) pid
  let _ ← call .kill
  match ← call .waitpid with
  | .blocked => .exit .hang
  | .failed | .report _ => pure ()

def main (platform : Platform) (locals : Locals) (argv : List (List Byte)) :
    Sys platform.arch Exit :=
  match argv with
  | _ :: offset :: _child :: _childArgs => do
      match parseOffset offset with
      | none => logFatal "invalid breakpoint offset '%s': expected a hex number"
      | some addr => do
          ensure (call .malloc) "malloc for child argv failed"
          runTarget platform locals (addr.setWidth _)
          pure .success
  | _ => pure .failure

end ProcessBridge.Snapshotter
