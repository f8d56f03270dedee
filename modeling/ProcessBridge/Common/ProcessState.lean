import Mathlib.Data.Fintype.Pi
import Mathlib.Data.Fin.VecNotation
import Mathlib.Tactic.FinCases
import ProcessBridge.Library.Bytes

/-! The captured processor state of the two architectures, as the packed C
structures that begin a snapshot file. The flag word of a descriptor keeps its
unused bits, so that encoding and decoding lose nothing. -/

set_option autoImplicit false

namespace ProcessBridge.Common

open Library

/-- `struct pb_x86_64_regs`, in the order of the kernel's `user_regs_struct`. -/
structure PbX86_64Regs where
  r15 : BitVec 64
  r14 : BitVec 64
  r13 : BitVec 64
  r12 : BitVec 64
  rbp : BitVec 64
  rbx : BitVec 64
  r11 : BitVec 64
  r10 : BitVec 64
  r9 : BitVec 64
  r8 : BitVec 64
  rax : BitVec 64
  rcx : BitVec 64
  rdx : BitVec 64
  rsi : BitVec 64
  rdi : BitVec 64
  origRax : BitVec 64
  rip : BitVec 64
  cs : BitVec 64
  eflags : BitVec 64
  rsp : BitVec 64
  ss : BitVec 64
  fsBase : BitVec 64
  gsBase : BitVec 64
  ds : BitVec 64
  es : BitVec 64
  fs : BitVec 64
  gs : BitVec 64
deriving DecidableEq, Repr, Inhabited

structure PbI386Regs where
  ebx : BitVec 32
  ecx : BitVec 32
  edx : BitVec 32
  esi : BitVec 32
  edi : BitVec 32
  ebp : BitVec 32
  eax : BitVec 32
  xds : BitVec 32
  xes : BitVec 32
  xfs : BitVec 32
  xgs : BitVec 32
  origEax : BitVec 32
  eip : BitVec 32
  xcs : BitVec 32
  eflags : BitVec 32
  esp : BitVec 32
  xss : BitVec 32
deriving DecidableEq, Repr, Inhabited

/-- `struct user_desc` of `asm/ldt.h`: three words and one word of bit-fields. -/
structure UserDesc where
  entryNumber : BitVec 32
  baseAddr : BitVec 32
  limit : BitVec 32
  flags : BitVec 32
deriving DecidableEq, Repr, Inhabited

namespace UserDesc

def seg32bit (desc : UserDesc) : BitVec 1 := desc.flags.extractLsb' 0 1
def contents (desc : UserDesc) : BitVec 2 := desc.flags.extractLsb' 1 2
def readExecOnly (desc : UserDesc) : BitVec 1 := desc.flags.extractLsb' 3 1
def limitInPages (desc : UserDesc) : BitVec 1 := desc.flags.extractLsb' 4 1
def segNotPresent (desc : UserDesc) : BitVec 1 := desc.flags.extractLsb' 5 1
def useable (desc : UserDesc) : BitVec 1 := desc.flags.extractLsb' 6 1

end UserDesc

abbrev gdtEntryTlsEntries : Nat := 3

structure LinuxX86_64ProcessState where
  regs : PbX86_64Regs
deriving DecidableEq, Repr, Inhabited

structure LinuxI386ProcessState where
  regs : PbI386Regs
  tls : Fin gdtEntryTlsEntries → UserDesc
deriving DecidableEq, Inhabited

/-!
## Packed representation
-/

def wordsBytes {width : Nat} (size : Nat) (values : List (BitVec width)) : List Byte :=
  recordBytes size (values.map BitVec.toNat)

def wordAt (width size : Nat) (bytes : List Byte) (index : Nat) : BitVec width :=
  BitVec.ofNat width (fieldValue size bytes (size * index))

@[simp] theorem wordsBytes_length {width : Nat} (size : Nat) (values : List (BitVec width)) :
    (wordsBytes size values).length = size * values.length := by
  simp [wordsBytes]

theorem wordAt_wordsBytes {width size : Nat} (fits : 256 ^ size = 2 ^ width)
    (values : List (BitVec width)) (index : Nat) (inside : index < values.length) :
    wordAt width size (wordsBytes size values) index = values[index] := by
  unfold wordAt wordsBytes
  rw [fieldValue_recordBytes _ _ _ (by simpa using inside), fits]
  apply BitVec.eq_of_toNat_eq
  simp

namespace PbX86_64Regs

def fields (regs : PbX86_64Regs) : List (BitVec 64) :=
  [regs.r15, regs.r14, regs.r13, regs.r12, regs.rbp, regs.rbx, regs.r11, regs.r10, regs.r9,
    regs.r8, regs.rax, regs.rcx, regs.rdx, regs.rsi, regs.rdi, regs.origRax, regs.rip, regs.cs,
    regs.eflags, regs.rsp, regs.ss, regs.fsBase, regs.gsBase, regs.ds, regs.es, regs.fs, regs.gs]

def ofWords (word : Nat → BitVec 64) : PbX86_64Regs where
  r15 := word 0
  r14 := word 1
  r13 := word 2
  r12 := word 3
  rbp := word 4
  rbx := word 5
  r11 := word 6
  r10 := word 7
  r9 := word 8
  r8 := word 9
  rax := word 10
  rcx := word 11
  rdx := word 12
  rsi := word 13
  rdi := word 14
  origRax := word 15
  rip := word 16
  cs := word 17
  eflags := word 18
  rsp := word 19
  ss := word 20
  fsBase := word 21
  gsBase := word 22
  ds := word 23
  es := word 24
  fs := word 25
  gs := word 26

private theorem ofWords_fields (regs : PbX86_64Regs) (word : Nat → BitVec 64)
    (agree : ∀ index (inside : index < regs.fields.length), word index = regs.fields[index]) :
    ofWords word = regs := by
  have positions : ∀ index, index < 27 → word index = regs.fields.getD index 0 := by
    intro index inside
    rw [agree index inside, List.getD_eq_getElem?_getD, List.getElem?_eq_getElem inside]
    rfl
  simp [ofWords, positions, fields]

end PbX86_64Regs

namespace LinuxX86_64ProcessState

def size : Nat := 216

def bytes (state : LinuxX86_64ProcessState) : List Byte := wordsBytes 8 state.regs.fields

/-- The structure found in memory; only the first `size` bytes matter. -/
def ofBytes (bytes : List Byte) : LinuxX86_64ProcessState := ⟨.ofWords (wordAt 64 8 bytes)⟩

@[simp] theorem bytes_length (state : LinuxX86_64ProcessState) : state.bytes.length = size := by
  simp [bytes, PbX86_64Regs.fields, size]

theorem ofBytes_bytes (state : LinuxX86_64ProcessState) : ofBytes state.bytes = state := by
  have words := PbX86_64Regs.ofWords_fields state.regs (wordAt 64 8 state.bytes)
    (fun index inside => wordAt_wordsBytes (by norm_num) state.regs.fields index inside)
  simp only [ofBytes, words]

end LinuxX86_64ProcessState

namespace PbI386Regs

def fields (regs : PbI386Regs) : List (BitVec 32) :=
  [regs.ebx, regs.ecx, regs.edx, regs.esi, regs.edi, regs.ebp, regs.eax, regs.xds, regs.xes,
    regs.xfs, regs.xgs, regs.origEax, regs.eip, regs.xcs, regs.eflags, regs.esp, regs.xss]

def ofWords (word : Nat → BitVec 32) : PbI386Regs where
  ebx := word 0
  ecx := word 1
  edx := word 2
  esi := word 3
  edi := word 4
  ebp := word 5
  eax := word 6
  xds := word 7
  xes := word 8
  xfs := word 9
  xgs := word 10
  origEax := word 11
  eip := word 12
  xcs := word 13
  eflags := word 14
  esp := word 15
  xss := word 16

end PbI386Regs

namespace UserDesc

def fields (desc : UserDesc) : List (BitVec 32) :=
  [desc.entryNumber, desc.baseAddr, desc.limit, desc.flags]

end UserDesc

namespace LinuxI386ProcessState

def size : Nat := 116

def fields (state : LinuxI386ProcessState) : List (BitVec 32) :=
  state.regs.fields ++ (state.tls 0).fields ++ (state.tls 1).fields ++ (state.tls 2).fields

def bytes (state : LinuxI386ProcessState) : List Byte := wordsBytes 4 state.fields

def ofWords (word : Nat → BitVec 32) : LinuxI386ProcessState where
  regs := .ofWords word
  tls := fun slot =>
    { entryNumber := word (17 + 4 * slot)
      baseAddr := word (18 + 4 * slot)
      limit := word (19 + 4 * slot)
      flags := word (20 + 4 * slot) }

def ofBytes (bytes : List Byte) : LinuxI386ProcessState := ofWords (wordAt 32 4 bytes)

@[simp] theorem bytes_length (state : LinuxI386ProcessState) : state.bytes.length = size := by
  simp [bytes, fields, PbI386Regs.fields, UserDesc.fields, size]

private theorem ofWords_fields (state : LinuxI386ProcessState) (word : Nat → BitVec 32)
    (agree : ∀ index (inside : index < state.fields.length), word index = state.fields[index]) :
    ofWords word = state := by
  have positions : ∀ index, index < 29 → word index = state.fields.getD index 0 := by
    intro index inside
    rw [agree index inside, List.getD_eq_getElem?_getD, List.getElem?_eq_getElem inside]
    rfl
  have tls : (ofWords word).tls = state.tls := by
    funext slot
    fin_cases slot
    all_goals simp [ofWords, positions, fields, PbI386Regs.fields, UserDesc.fields]
    rfl
  have regs : (ofWords word).regs = state.regs := by
    simp [ofWords, PbI386Regs.ofWords, positions, fields, PbI386Regs.fields]
  cases state
  simpa only [ofWords, mk.injEq] using ⟨regs, tls⟩

theorem ofBytes_bytes (state : LinuxI386ProcessState) : ofBytes state.bytes = state :=
  ofWords_fields state _
    (fun index inside => wordAt_wordsBytes (by norm_num) state.fields index inside)

end LinuxI386ProcessState

end ProcessBridge.Common
