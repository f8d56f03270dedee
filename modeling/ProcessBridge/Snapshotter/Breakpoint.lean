import ProcessBridge.Snapshotter.Tracee

/-! Starting the child, arming a breakpoint in it and running it up to there. -/

set_option autoImplicit false

namespace ProcessBridge.Snapshotter

open Library Common

variable {arch : Arch}

structure Breakpoint (arch : Arch) where
  hookAddr : BitVec arch.width
  oldWord : BitVec 64

/-- The parent's side of `fork_child`; what the child does up to its first stop
is the kernel's first report. -/
def forkChild : Sys arch Nat := do
  let pid ← required (call .fork) "fork failed"
  let status ← waitpid "waitpid(%d) failed"
  match status with
  | .exited _ =>
      logFatal "child %d exited with status %d before reaching the traceme stop"
  | .signaled _ =>
      logFatal "child %d was killed by signal %d before reaching the traceme stop"
  | .stopped _ => pure pid
  | .other _ => logFatal "child %d: unexpected wait status %d"

def createBreakpoint (hookAddr : BitVec arch.width) : Sys arch (Breakpoint arch) := do
  let peekResult ← required (call (.peektext hookAddr))
    "ptrace(PTRACE_PEEKTEXT, pid=%d, addr=%p) failed"
  let word : BitVec 64 := peekResult.signExtend 64
  ensure (call (.poketext hookAddr ((placeInt3InFirstByte word).setWidth arch.width)))
    "ptrace(PTRACE_POKETEXT, pid=%d, addr=%p) failed while arming breakpoint"
  pure ⟨hookAddr, word⟩

def stepPastBreakpoint (breakpoint : Breakpoint arch) : Sys arch Unit := do
  ensure (call .singlestep) "ptrace(PTRACE_SINGLESTEP, pid=%d) failed"
  let status ← waitpid "waitpid(%d) failed"
  exitIf status.isEnd .success
  ensure (call (.poketext breakpoint.hookAddr (breakpoint.oldWord.setWidth arch.width)))
    "ptrace(PTRACE_POKETEXT, pid=%d, addr=%p) failed while restoring the original instruction"

/-- Rewind the child and restore its text. A stop at an unexpected address is only
logged. -/
def rewind (breakpoint : Breakpoint arch) : Sys arch Unit := do
  let regs ← required (call .getregs) "ptrace(PTRACE_GETREGS, pid=%d) failed"
  ensure (call (.setregs (arch.setIp regs (arch.ip regs - 1))))
    "ptrace(PTRACE_SETREGS, pid=%d) failed"
  ensure (call (.poketext breakpoint.hookAddr (breakpoint.oldWord.setWidth arch.width)))
    "ptrace(PTRACE_POKETEXT, pid=%d, addr=%p) failed while restoring the original instruction"

/-- The part of `execute_up_to_breakpoint` that sets the child going and waits for it
to stop. -/
def resumeUntilStop (breakpoint : Breakpoint arch) : Sys arch Unit := do
  let regs ← required (call .getregs) "ptrace(PTRACE_GETREGS, pid=%d) failed"
  (if arch.ip regs = breakpoint.hookAddr then stepPastBreakpoint breakpoint else pure ())
  ensure (call .cont) "ptrace(PTRACE_CONT, pid=%d) failed"
  let status ← waitpid "waitpid(%d) failed"
  exitIf status.isEnd .success

def executeUpToBreakpoint (breakpoint : Breakpoint arch) : Sys arch Unit := do
  resumeUntilStop breakpoint
  rewind breakpoint

end ProcessBridge.Snapshotter
