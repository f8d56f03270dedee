import ProcessBridge.Common.MapsEntry
import ProcessBridge.Common.ProcessState
import ProcessBridge.Library.Program

/-! The operating system as the snapshotter sees it. Every system and library
call that can fail is one operation; the kernel decides whether it fails, what
a resumed child does before the next report, and what the files contain. The
world records each call with the state of the child at that moment. -/

set_option autoImplicit false

namespace ProcessBridge.Snapshotter

open Library Common

/-- What the two builds of the snapshotter differ in. -/
structure Arch where
  wordSize : Nat
  width : Nat
  width_eq : width = 8 * wordSize
  wordSize_pos : 0 < wordSize
  width_le : width ≤ 64
  Regs : Type
  ip : Regs → BitVec width
  setIp : Regs → BitVec width → Regs
  ip_setIp : ∀ regs value, ip (setIp regs value) = value
  setIp_setIp : ∀ regs first second, setIp (setIp regs first) second = setIp regs second
  setIp_ip : ∀ regs, setIp regs (ip regs) = regs

def Arch.x86_64 : Arch where
  wordSize := 8
  width := 64
  width_eq := rfl
  wordSize_pos := by decide
  width_le := le_rfl
  Regs := PbX86_64Regs
  ip := PbX86_64Regs.rip
  setIp := fun regs value => { regs with rip := value }
  ip_setIp := fun _ _ => rfl
  setIp_setIp := fun _ _ _ => rfl
  setIp_ip := fun _ => rfl

def Arch.i386 : Arch where
  wordSize := 4
  width := 32
  width_eq := rfl
  wordSize_pos := by decide
  width_le := by decide
  Regs := PbI386Regs
  ip := PbI386Regs.eip
  setIp := fun regs value => { regs with eip := value }
  ip_setIp := fun _ _ => rfl
  setIp_setIp := fun _ _ _ => rfl
  setIp_ip := fun _ => rfl

def Arch.sizeMax (arch : Arch) : Nat := 2 ^ arch.width - 1

@[ext] structure Tracee (arch : Arch) where
  regs : arch.Regs
  memory : BitVec arch.width → Byte

namespace Tracee

variable {arch : Arch}

def ip (tracee : Tracee arch) : BitVec arch.width := arch.ip tracee.regs

def setIp (tracee : Tracee arch) (value : BitVec arch.width) : Tracee arch :=
  { tracee with regs := arch.setIp tracee.regs value }

def wordBytes (tracee : Tracee arch) (address : BitVec arch.width) : List Byte :=
  (List.range arch.wordSize).map fun index => tracee.memory (address + BitVec.ofNat _ index)

def peek (tracee : Tracee arch) (address : BitVec arch.width) : BitVec arch.width :=
  BitVec.ofNat _ (littleValue (tracee.wordBytes address))

def poke (tracee : Tracee arch) (address value : BitVec arch.width) : Tracee arch :=
  { tracee with
    memory := fun location =>
      (littleBytes arch.wordSize value.toNat).getD (location - address).toNat
        (tracee.memory location) }

end Tracee

inductive Resume where
  | exec
  | cont
  | singlestep
deriving DecidableEq, Repr

/-- What `waitpid` reports. -/
inductive Report where
  | exited (status : Nat)
  | signaled (signal : Nat)
  | stopped (signal : Nat)
  | other (status : Nat)
deriving DecidableEq, Repr

def sigtrap : Nat := 5

def Report.isEnd : Report → Bool
  | .exited _ | .signaled _ => true
  | .stopped _ | .other _ => false

inductive Child (arch : Arch) where
  | absent
  | stopped (tracee : Tracee arch)
  | running (resume : Resume) (tracee : Tracee arch)
  | dead

def Child.alive {arch : Arch} : Child arch → Bool
  | .stopped _ | .running _ _ => true
  | .absent | .dead => false

def bufferSize : Nat := 2 ^ 20

abbrev Buffer := { bytes : List Byte // bytes.length = bufferSize }

/-- The buffer after bytes have been copied to its front. -/
def Buffer.fill (buffer : Buffer) (bytes : List Byte) : Buffer :=
  ⟨(bytes ++ buffer.val.drop bytes.length).take bufferSize, by
    have full := buffer.property
    simp only [List.length_take, List.length_append, List.length_drop, full]
    omega⟩

def memorySlice {arch : Arch} (memory : BitVec arch.width → Byte) (address : BitVec arch.width)
    (size : Nat) : List Byte :=
  (List.range size).map fun index => memory (address + BitVec.ofNat _ index)

inductive Call (arch : Arch) where
  | fork
  | waitpid
  | kill
  | getregs
  | setregs (regs : arch.Regs)
  | peektext (address : BitVec arch.width)
  | poketext (address value : BitVec arch.width)
  | cont
  | singlestep
  | getThreadArea (index : Nat)
  | openElf
  | seekElf (offset : Int)
  | rewindElf
  | readElf (size : Nat)
  | filenoElf
  | readlinkElf
  | closeElf
  | openMaps
  | getline
  | closeMaps
  | malloc
  | openSnapshot
  | write (bytes : List Byte)
  | flush
  | closeSnapshot
  | processVmReadv (address : BitVec arch.width) (size : Nat) (buffer : Buffer)

/-- Answer of `waitpid`, which may also block for ever. -/
inductive Waited where
  | failed
  | blocked
  | report (report : Report)
deriving DecidableEq, Repr

def Answer {arch : Arch} : Call arch → Type
  | .fork => Option Nat
  | .waitpid => Waited
  | .getregs => Option arch.Regs
  | .peektext _ => Option (BitVec arch.width)
  | .getThreadArea _ => Option UserDesc
  | .readElf _ | .readlinkElf => Option (List Byte)
  | .openMaps => Option (List (List Byte))
  | .processVmReadv _ _ _ => Option Nat × Buffer
  | _ => Bool

/-- One call as the world remembers it. -/
structure Entry (arch : Arch) where
  call : Call arch
  child : Child arch
  succeeded : Bool

structure World (arch : Arch) where
  log : List (Entry arch)
  reports : List (Resume × Report × Tracee arch)
  child : Child arch
  elfPosition : Nat
  output : List Byte

def World.initial (arch : Arch) : World arch := ⟨[], [], .absent, 0, []⟩

/-- The choices of the operating system. The first argument of a choice is the
number of calls made before it, so equal calls may be answered differently. Of a
read of the child's memory `readv` decides how many bytes arrive, and what is in
the buffer if these are not all. -/
structure Kernel (arch : Arch) where
  fails : Nat → Call arch → Bool
  pid : Nat
  image : Tracee arch
  report : Nat → Resume → Tracee arch → Option (Report × Tracee arch)
  threadArea : Nat → Nat → UserDesc
  elf : List Byte
  elfPath : List Byte
  maps : Nat → List (List Byte)
  readv : Nat → BitVec arch.width → Nat → Buffer → Option Nat × Buffer

namespace Kernel

variable {arch : Arch} (kernel : Kernel arch)

def childAfter (report : Report) (tracee : Tracee arch) : Child arch :=
  if report.isEnd then .dead else .stopped tracee

/-- `waitpid`: a child that was set going reports once, a dead one is reaped, and
for a stopped one there is nothing to wait for. -/
def wait (world : World arch) (count : Nat) : Waited × World arch :=
  match world.child with
  | .running resume tracee =>
      match kernel.report count resume tracee with
      | some (report, after) =>
          (.report report, { world with
            child := childAfter report after
            reports := world.reports ++ [(resume, report, after)] })
      | none => (.blocked, world)
  | .dead => (.report (.signaled 9), world)
  | .stopped _ => (.blocked, world)
  | .absent => (.failed, world)

def onStopped {α : Type} (world : World arch) (failed : α)
    (request : Tracee arch → α × World arch) : α × World arch :=
  match world.child with
  | .stopped tracee => request tracee
  | _ => (failed, world)

/-- `process_vm_readv`. All bytes asked for are those of the stopped child; a dead child
has no memory, and what a running one has at the moment is not known. -/
def read (child : Child arch) (count : Nat) (address : BitVec arch.width) (size : Nat)
    (buffer : Buffer) : Option Nat × Buffer :=
  let (result, arrived) := kernel.readv count address size buffer
  match child with
  | .stopped tracee =>
      (result, if result = some size then buffer.fill (memorySlice tracee.memory address size)
        else arrived)
  | .running _ _ => (result, arrived)
  | .absent | .dead => (none, arrived)

/-- What a call that the kernel does not refuse returns and does. -/
def perform (count : Nat) : (call : Call arch) → World arch → Answer call × World arch
  | .fork, world => (some kernel.pid, { world with child := .running .exec kernel.image })
  | .waitpid, world => kernel.wait world count
  | .kill, world => (true, { world with child := if world.child.alive then .dead else world.child })
  | .getregs, world => onStopped world none fun tracee => (some tracee.regs, world)
  | .setregs regs, world => onStopped world false fun tracee =>
      (true, { world with child := .stopped { tracee with regs } })
  | .peektext address, world => onStopped world none fun tracee =>
      (some (tracee.peek address), world)
  | .poketext address value, world => onStopped world false fun tracee =>
      (true, { world with child := .stopped (tracee.poke address value) })
  | .cont, world => onStopped world false fun tracee =>
      (true, { world with child := .running .cont tracee })
  | .singlestep, world => onStopped world false fun tracee =>
      (true, { world with child := .running .singlestep tracee })
  | .getThreadArea index, world => onStopped world none fun _ =>
      (some (kernel.threadArea count index), world)
  | .openElf, world => (true, { world with elfPosition := 0 })
  | .seekElf offset, world =>
      if 0 ≤ offset then (true, { world with elfPosition := offset.toNat }) else (false, world)
  | .rewindElf, world => (true, { world with elfPosition := 0 })
  | .readElf size, world =>
      let bytes := (kernel.elf.drop world.elfPosition).take size
      (some bytes, { world with elfPosition := world.elfPosition + bytes.length })
  | .filenoElf, world => (true, world)
  | .readlinkElf, world => (some kernel.elfPath, world)
  | .closeElf, world => (true, world)
  | .openMaps, world => (some (kernel.maps count), world)
  | .getline, world => (true, world)
  | .closeMaps, world => (true, world)
  | .malloc, world => (true, world)
  | .openSnapshot, world => (true, { world with output := [] })
  | .write bytes, world => (true, { world with output := world.output ++ bytes })
  | .flush, world => (true, world)
  | .closeSnapshot, world => (true, world)
  | .processVmReadv address size buffer, world =>
      (kernel.read world.child count address size buffer, world)

/-- The answer of a call that the kernel refuses. A failing read may still have
changed the buffer. -/
def refusal (count : Nat) : (call : Call arch) → Answer call
  | .waitpid => .failed
  | .fork | .getregs | .peektext _ | .getThreadArea _ | .readElf _ | .readlinkElf
  | .openMaps => none
  | .processVmReadv address size buffer => (none, (kernel.readv count address size buffer).2)
  | .kill | .setregs _ | .poketext _ _ | .cont | .singlestep | .openElf | .seekElf _ | .rewindElf
  | .filenoElf | .closeElf | .getline | .closeMaps | .malloc | .openSnapshot | .write _
  | .flush | .closeSnapshot => false

def answer (call : Call arch) (world : World arch) : Answer call × World arch :=
  let count := world.log.length
  let refused := kernel.fails count call
  let logged := { world with log := world.log ++ [⟨call, world.child, !refused⟩] }
  if refused then (kernel.refusal count call, logged) else kernel.perform count call logged

end Kernel

/-- How the snapshotter ends without returning from `main`: `LOG_FATAL`,
`exit(EXIT_FAILURE)` after a plain error, `exit(EXIT_SUCCESS)`, or never. -/
inductive Exit where
  | fatal (message : String)
  | failure
  | success
  | hang
deriving DecidableEq, Repr

abbrev Sys (arch : Arch) := Program (Call arch) Answer Exit

def call {arch : Arch} (op : Call arch) : Sys arch (Answer op) := Program.ask op

def logFatal {arch : Arch} {α : Type} (message : String) : Sys arch α := .exit (.fatal message)

/-- A call whose failure is fatal. -/
def required {arch : Arch} {α : Type} (answer : Sys arch (Option α)) (message : String) :
    Sys arch α := do
  match ← answer with
  | some value => pure value
  | none => logFatal message

def ensure {arch : Arch} (answer : Sys arch Bool) (message : String) : Sys arch Unit := do
  if ← answer then pure () else logFatal message

def exitIf {arch : Arch} (condition : Bool) (code : Exit) : Sys arch Unit :=
  if condition then .exit code else pure ()

/-- `waitpid` with a fatal error branch; waiting for ever is an outcome of its own. -/
def waitpid {arch : Arch} (message : String) : Sys arch Report := do
  match ← call .waitpid with
  | .report report => pure report
  | .failed => logFatal message
  | .blocked => .exit .hang

end ProcessBridge.Snapshotter
