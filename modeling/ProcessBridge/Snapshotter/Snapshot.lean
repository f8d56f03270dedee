import ProcessBridge.Snapshotter.Breakpoint

/-! Capturing the process state of the stopped child on the two platforms. -/

set_option autoImplicit false

namespace ProcessBridge.Snapshotter

open Library Common

/-- The two builds of the snapshotter. -/
inductive Platform where
  | x86_64
  | i386
deriving DecidableEq, Repr

namespace Platform

def arch : Platform → Arch
  | x86_64 => .x86_64
  | i386 => .i386

def ProcessState : Platform → Type
  | x86_64 => LinuxX86_64ProcessState
  | i386 => LinuxI386ProcessState

def regs : (platform : Platform) → platform.ProcessState → platform.arch.Regs
  | x86_64, (state : LinuxX86_64ProcessState) => state.regs
  | i386, (state : LinuxI386ProcessState) => state.regs

def bytes : (platform : Platform) → platform.ProcessState → List Byte
  | x86_64, (state : LinuxX86_64ProcessState) => state.bytes
  | i386, (state : LinuxI386ProcessState) => state.bytes

end Platform

def gdtEntryTlsMinTrueI386 : Nat := 6

def gdtEntryTlsMinCompMode : Nat := 12

abbrev Tls := Fin gdtEntryTlsEntries → UserDesc

def Tls.set (tls : Tls) (slot : Nat) (desc : UserDesc) : Tls :=
  fun other => if other.val = slot then desc else tls other

/-- The loop over the remaining descriptors. -/
def fillTls (gdtEntryTlsMin : Nat) : List Nat → Tls → Sys .i386 Tls
  | [], tls => pure tls
  | index :: rest, tls => do
      let desc ← required (call (.getThreadArea index))
        "ptrace(PTRACE_GET_THREAD_AREA, pid=%d, index=%d) failed"
      fillTls gdtEntryTlsMin rest (Tls.set tls (index - gdtEntryTlsMin) desc)

def createSnapshotX86_64 : Sys .x86_64 LinuxX86_64ProcessState := do
  let regs ← required (call .getregs) "ptrace(PTRACE_GETREGS, pid=%d) failed"
  pure ⟨regs⟩

/-- The first query decides between the layouts of a 32-bit and a 64-bit kernel. -/
def readTls (uninitialised : Tls) : Sys .i386 Tls := do
  match ← call (.getThreadArea gdtEntryTlsMinTrueI386) with
  | some desc =>
      fillTls gdtEntryTlsMinTrueI386
        (List.range' (gdtEntryTlsMinTrueI386 + 1) (gdtEntryTlsEntries - 1))
        (Tls.set uninitialised 0 desc)
  | none =>
      fillTls gdtEntryTlsMinCompMode (List.range' gdtEntryTlsMinCompMode gdtEntryTlsEntries)
        uninitialised

def createSnapshotI386 (uninitialised : Tls) : Sys .i386 LinuxI386ProcessState := do
  let regs ← required (call .getregs) "ptrace(PTRACE_GETREGS, pid=%d) failed"
  let tls ← readTls uninitialised
  pure ⟨regs, tls⟩

def createSnapshot (uninitialised : Tls) : (platform : Platform) →
    Sys platform.arch platform.ProcessState
  | .x86_64 => createSnapshotX86_64
  | .i386 => createSnapshotI386 uninitialised

end ProcessBridge.Snapshotter
