import Mathlib.Logic.Function.Basic
import ProcessBridge.Common.ProcessState
import ProcessBridge.Library.MemoryMap
import ProcessBridge.Library.Outcome

/-! The part of the Unicorn interface that the loader calls. Memory follows the
documented page rules. What the interface leaves to the emulated processor
(which selectors it refuses, which data segments an `iret` nulls, which flag
bits it stores) is a parameter, so that results hold for every such choice. -/

set_option autoImplicit false

namespace ProcessBridge.Loader

open Library Common

inductive UcMode where
  | mode16
  | mode32
  | mode64
deriving DecidableEq, Repr

inductive UcErr where
  | map
  | writeUnmapped
  | nomem
  | fetchUnmapped
  | fetchProt
  | readUnmapped
  | insnInvalid
  | exception
deriving DecidableEq, Repr

structure UcProt where
  read : Bool
  write : Bool
  exec : Bool
deriving DecidableEq, Repr

/-- Ways in which the loader does not return: `LOG_FATAL`, the two undefined behaviours
its bounds checks are there to exclude, and that of a log line whose string has
no end. -/
inductive Halt where
  | fatal (message : String)
  | overread
  | outOfBounds
  | unterminated
deriving DecidableEq, Repr

abbrev Memory := MemoryMap 0x1000 (2 ^ 64) UcProt Byte

inductive Gpr where
  | ax | bx | cx | dx | si | di | bp | sp
  | r8 | r9 | r10 | r11 | r12 | r13 | r14 | r15
deriving DecidableEq, Repr

inductive SegReg where
  | cs | ss | ds | es | fs | gs
deriving DecidableEq, Repr

/-- Register identifiers: `qword .ax` is `UC_X86_REG_RAX`, `dword .ax` is
`UC_X86_REG_EAX`. -/
inductive UcReg where
  | qword (gpr : Gpr)
  | dword (gpr : Gpr)
  | rip
  | eip
  | eflags
  | seg (segment : SegReg)
  | fsBase
  | gsBase
deriving DecidableEq, Repr

/-- A segment register with the base address hidden behind its selector. -/
structure Segment where
  selector : BitVec 16
  base : BitVec 64
deriving DecidableEq, Repr

structure Engine where
  mode : UcMode
  memory : Memory
  gpr : Gpr → BitVec 64
  ip : BitVec 64
  eflags : BitVec 32
  segment : SegReg → Segment
  gdtrBase : BitVec 64
  gdtrLimit : BitVec 32

/-- The five words an `iret` to another privilege level pops. -/
structure IretFrame where
  eip : BitVec 32
  cs : BitVec 32
  eflags : BitVec 32
  esp : BitVec 32
  ss : BitVec 32
deriving DecidableEq, Repr

/-- The choices of the emulated processor. -/
structure Unicorn where
  refusesSelector : Engine → SegReg → BitVec 16 → Bool
  refusesIret : Engine → IretFrame → Bool
  nullsSegment : Engine → IretFrame → SegReg → Bool
  eflagsMask : BitVec 32
  eflagsRest : BitVec 32 → BitVec 32 → BitVec 32

def Unicorn.lenient : Unicorn where
  refusesSelector := fun _ _ _ => false
  refusesIret := fun _ _ => false
  nullsSegment := fun _ _ _ => false
  eflagsMask := -1
  eflagsRest := fun _ new => new

def Engine.opened (mode : UcMode) : Engine where
  mode := mode
  memory := .empty
  gpr := fun _ => 0
  ip := 0
  eflags := 2
  segment := fun _ => ⟨0, 0⟩
  gdtrBase := 0
  gdtrLimit := 0

theorem Engine.opened_free (mode : UcMode) (base size : Nat) :
    (Engine.opened mode).memory.Free base size := by
  intro region member
  simp [opened, MemoryMap.empty] at member

/-- Flag bits outside the mask keep whatever the processor puts there. -/
def Unicorn.loadEflags (u : Unicorn) (old new : BitVec 32) : BitVec 32 :=
  (new &&& u.eflagsMask) ||| (u.eflagsRest old new &&& ~~~u.eflagsMask)

theorem Unicorn.loadEflags_masked (u : Unicorn) (old new : BitVec 32) :
    u.loadEflags old new &&& u.eflagsMask = new &&& u.eflagsMask := by
  ext index inside
  simp only [loadEflags, BitVec.getElem_and, BitVec.getElem_or, BitVec.getElem_not]
  cases u.eflagsMask[index] <;> simp

/-!
## Segment descriptors
-/

def descriptorBase (descriptor : BitVec 64) : BitVec 32 :=
  descriptor.extractLsb' 56 8 ++ descriptor.extractLsb' 16 24

namespace Engine

/-- The table entry a selector names; unmapped entries read as zero. -/
def descriptorAt (uc : Engine) (selector : BitVec 16) : BitVec 64 :=
  match uc.memory.read? (uc.gdtrBase.toNat + 8 * (selector.toNat / 8)) 8 with
  | some bytes => BitVec.ofNat 64 (littleValue bytes)
  | none => 0

def hiddenBase (uc : Engine) (selector : BitVec 16) : BitVec 64 :=
  if selector &&& 0xFFFC = 0 then 0
  else (descriptorBase (uc.descriptorAt selector)).setWidth 64

def setGpr (uc : Engine) (gpr : Gpr) (value : BitVec 64) : Engine :=
  { uc with gpr := Function.update uc.gpr gpr value }

def setSegment (uc : Engine) (which : SegReg) (value : Segment) : Engine :=
  { uc with segment := Function.update uc.segment which value }

/-- Load a selector together with the base its descriptor holds. -/
def loadSelector (uc : Engine) (which : SegReg) (selector : BitVec 16) : Engine :=
  uc.setSegment which ⟨selector, uc.hiddenBase selector⟩

def setBase (uc : Engine) (which : SegReg) (base : BitVec 64) : Engine :=
  uc.setSegment which ⟨(uc.segment which).selector, base⟩

end Engine

/-!
## Memory calls
-/

/-- `uc_mem_map`; new memory reads as zero. -/
def ucMemMap (uc : Engine) (address size : Nat) (perms : UcProt) : Except UcErr Engine :=
  match uc.memory.map? address size perms 0 with
  | some memory => .ok { uc with memory }
  | none => .error .map

/-- `uc_mem_write`, which ignores the permissions of the emulated process. -/
def ucMemWrite (uc : Engine) (address : Nat) (bytes : List Byte) : Except UcErr Engine :=
  match uc.memory.write? address bytes with
  | some memory => .ok { uc with memory }
  | none => .error .writeUnmapped

def ucMemProtect (uc : Engine) (address size : Nat) (perms : UcProt) : Except UcErr Engine :=
  match uc.memory.protect? address size perms with
  | some memory => .ok { uc with memory }
  | none => .error .nomem

def ucMemUnmap (uc : Engine) (address size : Nat) : Except UcErr Engine :=
  match uc.memory.unmap? address size with
  | some memory => .ok { uc with memory }
  | none => .error .nomem

section MemoryCalls

variable {uc : Engine} {memory : Memory} {address size : Nat} {perms : UcProt} {bytes : List Byte}

theorem ucMemMap_ok (mapped : uc.memory.map? address size perms 0 = some memory) :
    ucMemMap uc address size perms = .ok { uc with memory } := by
  rw [ucMemMap, mapped]

private theorem ucMemMap_error (refused : uc.memory.map? address size perms 0 = none) :
    ucMemMap uc address size perms = .error .map := by
  rw [ucMemMap, refused]

theorem ucMemWrite_ok (written : uc.memory.write? address bytes = some memory) :
    ucMemWrite uc address bytes = .ok { uc with memory } := by
  rw [ucMemWrite, written]

theorem ucMemProtect_ok (guarded : uc.memory.protect? address size perms = some memory) :
    ucMemProtect uc address size perms = .ok { uc with memory } := by
  rw [ucMemProtect, guarded]

theorem ucMemUnmap_ok (removed : uc.memory.unmap? address size = some memory) :
    ucMemUnmap uc address size = .ok { uc with memory } := by
  rw [ucMemUnmap, removed]

/-- A new region never overlaps what is mapped; everything else is refused. -/
theorem ucMemMap_cases (uc : Engine) (address size : Nat) (perms : UcProt) :
    (uc.memory.Mappable address size ∧ ∃ memory : Memory,
      ucMemMap uc address size perms = .ok { uc with memory } ∧
        memory.regions = uc.memory.regions ++ [⟨address, perms, List.replicate size 0⟩]) ∨
    (¬ uc.memory.Mappable address size ∧ ucMemMap uc address size perms = .error .map) := by
  cases result : uc.memory.map? address size perms 0 with
  | none => exact .inr ⟨MemoryMap.map?_eq_none_iff.mp result, ucMemMap_error result⟩
  | some memory =>
      obtain ⟨mappable, shape⟩ := MemoryMap.map?_eq_some_iff.mp result
      exact .inl ⟨mappable, memory, ucMemMap_ok result, shape⟩

end MemoryCalls

/-!
## Register calls and emulation
-/

/-- `uc_reg_write`; narrow registers take the low bits of the value. -/
def ucRegWrite (u : Unicorn) (uc : Engine) (reg : UcReg) (value : BitVec 64) :
    Except UcErr Engine :=
  match reg with
  | .qword gpr => .ok (uc.setGpr gpr value)
  | .dword gpr => .ok (uc.setGpr gpr ((uc.gpr gpr).extractLsb' 32 32 ++ value.setWidth 32))
  | .rip => .ok { uc with ip := value }
  | .eip => .ok { uc with ip := (value.setWidth 32).setWidth 64 }
  | .eflags => .ok { uc with eflags := u.loadEflags uc.eflags (value.setWidth 32) }
  | .seg segment =>
      if u.refusesSelector uc segment (value.setWidth 16) then .error .exception
      else .ok (uc.loadSelector segment (value.setWidth 16))
  | .fsBase => .ok (uc.setBase .fs value)
  | .gsBase => .ok (uc.setBase .gs value)

def ucRegWriteGdtr (uc : Engine) (base : BitVec 64) (limit : BitVec 32) : Except UcErr Engine :=
  .ok { uc with gdtrBase := base, gdtrLimit := limit }

def ucRegRead (uc : Engine) : UcReg → BitVec 64
  | .qword gpr => uc.gpr gpr
  | .dword gpr => ((uc.gpr gpr).setWidth 32).setWidth 64
  | .rip => uc.ip
  | .eip => (uc.ip.setWidth 32).setWidth 64
  | .eflags => uc.eflags.setWidth 64
  | .seg segment => (uc.segment segment).selector.setWidth 64
  | .fsBase => (uc.segment .fs).base
  | .gsBase => (uc.segment .gs).base

def IretFrame.bytes (frame : IretFrame) : List Byte :=
  wordsBytes 4 [frame.eip, frame.cs, frame.eflags, frame.esp, frame.ss]

def IretFrame.ofBytes (bytes : List Byte) : IretFrame where
  eip := wordAt 32 4 bytes 0
  cs := wordAt 32 4 bytes 1
  eflags := wordAt 32 4 bytes 2
  esp := wordAt 32 4 bytes 3
  ss := wordAt 32 4 bytes 4

def SegReg.isData : SegReg → Bool
  | .cs | .ss => false
  | .ds | .es | .fs | .gs => true

/-- The registers after an `iret` that pops `frame`. -/
def Engine.afterIret (u : Unicorn) (uc : Engine) (frame : IretFrame) : Engine :=
  let cs := frame.cs.setWidth 16
  let ss := frame.ss.setWidth 16
  { uc with
    ip := frame.eip.setWidth 64
    eflags := u.loadEflags uc.eflags frame.eflags
    gpr := Function.update uc.gpr .sp (frame.esp.setWidth 64)
    segment := fun which =>
      match which with
      | .cs => ⟨cs, uc.hiddenBase cs⟩
      | .ss => ⟨ss, uc.hiddenBase ss⟩
      | which => if u.nullsSegment uc frame which then ⟨0, 0⟩ else uc.segment which }

/-- `uc_emu_start` for one instruction. `iret` is the only instruction the loader
ever runs, and every other opcode is refused here. -/
def ucEmuStart (u : Unicorn) (uc : Engine) (start : Nat) : Except UcErr Engine :=
  match uc.memory.lookup start with
  | none => .error .fetchUnmapped
  | some (perms, opcode) =>
      if !perms.exec then .error .fetchProt
      else if opcode ≠ 0xCF then .error .insnInvalid
      else match uc.memory.read? ((uc.gpr .sp).setWidth 32).toNat 20 with
        | none => .error .readUnmapped
        | some bytes =>
            if u.refusesIret uc (.ofBytes bytes) then .error .exception
            else .ok (uc.afterIret u (.ofBytes bytes))

def pbUcCheck (result : Except UcErr Engine) (message : String) : Except Halt Engine :=
  match result with
  | .ok uc => .ok uc
  | .error _ => .error (.fatal message)

def fatalIf (condition : Prop) [Decidable condition] (message : String) : Except Halt Unit :=
  if condition then .error (.fatal message) else .ok ()

theorem pbUcCheck_ok_iff {result : Except UcErr Engine} {message : String} {uc : Engine} :
    pbUcCheck result message = .ok uc ↔ result = .ok uc := by
  cases result <;> simp [pbUcCheck]

theorem fatalIf_ok_iff {condition : Prop} [Decidable condition] {message : String} {value : Unit} :
    fatalIf condition message = .ok value ↔ ¬ condition := by
  unfold fatalIf
  split <;> simp_all

/-- The computation either returns or ends in `LOG_FATAL`. -/
def FatalOnly {α : Type} (run : Except Halt α) : Prop :=
  ∀ halt, run = .error halt → ∃ message, halt = .fatal message

namespace FatalOnly

variable {α β : Type}

theorem ok (value : α) : FatalOnly (.ok value) := by
  intro halt stopped
  cases stopped

theorem bind {first : Except Halt α} {next : α → Except Halt β} (firstFatal : FatalOnly first)
    (nextFatal : ∀ value, first = .ok value → FatalOnly (next value)) :
    FatalOnly (first >>= next) := by
  intro halt stopped
  rcases bind_error_iff.mp stopped with early | ⟨value, returned, late⟩
  · exact firstFatal halt early
  · exact nextFatal value returned halt late

theorem pbUcCheck (result : Except UcErr Engine) (message : String) :
    FatalOnly (pbUcCheck result message) := by
  intro halt stopped
  cases result with
  | ok uc => cases stopped
  | error code =>
      cases stopped
      exact ⟨message, rfl⟩

theorem fatalIf (condition : Prop) [Decidable condition] (message : String) :
    FatalOnly (fatalIf condition message) := by
  intro halt stopped
  unfold Loader.fatalIf at stopped
  split at stopped
  · cases stopped
    exact ⟨message, rfl⟩
  · cases stopped

end FatalOnly

theorem IretFrame.ofBytes_bytes (frame : IretFrame) : ofBytes frame.bytes = frame := by
  have word : ∀ index (inside : index < 5), wordAt 32 4 frame.bytes index =
      [frame.eip, frame.cs, frame.eflags, frame.esp, frame.ss][index] :=
    fun index inside => wordAt_wordsBytes (by norm_num)
      [frame.eip, frame.cs, frame.eflags, frame.esp, frame.ss] index inside
  unfold ofBytes
  rw [word 0 (by omega), word 1 (by omega), word 2 (by omega), word 3 (by omega),
    word 4 (by omega)]
  rfl

end ProcessBridge.Loader
