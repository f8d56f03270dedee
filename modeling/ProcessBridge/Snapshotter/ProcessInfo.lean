import ProcessBridge.Snapshotter.MapsParser

/-! Where the executable of the child is loaded: the ELF headers are read from the
file, the lowest mapping of the file from the maps of the child. -/

set_option autoImplicit false

namespace ProcessBridge.Snapshotter

open Library Common

inductive ElfClass where
  | class32
  | class64
deriving DecidableEq, Repr

namespace ElfClass

def ehdrSize : ElfClass → Nat
  | class32 => 52
  | class64 => 64

def phdrSize : ElfClass → Nat
  | class32 => 32
  | class64 => 56

def phdrType (phdr : List Byte) : Nat := fieldValue 4 phdr 0

def phdrVaddr (phdr : List Byte) : ElfClass → Nat
  | class32 => fieldValue 4 phdr 8
  | class64 => fieldValue 8 phdr 16

end ElfClass

def eiNident : Nat := 16

def elfMag : List Byte := [0x7F, 0x45, 0x4C, 0x46]

def etExec : Nat := 2
def etDyn : Nat := 3
def ptLoad : Nat := 1

/-- `elf_info_t`: the class, the bytes of the header and the path. -/
structure ElfInfo where
  elfClass : ElfClass
  ehdr : List Byte
  path : List Byte
  pid : Nat

namespace ElfInfo

variable (info : ElfInfo)

def ehdrType : Nat := fieldValue 2 info.ehdr 16

def ehdrPhoff : Nat :=
  match info.elfClass with
  | .class32 => fieldValue 4 info.ehdr 28
  | .class64 => fieldValue 8 info.ehdr 32

def ehdrPhentsize : Nat :=
  match info.elfClass with
  | .class32 => fieldValue 2 info.ehdr 42
  | .class64 => fieldValue 2 info.ehdr 54

def ehdrPhnum : Nat :=
  match info.elfClass with
  | .class32 => fieldValue 2 info.ehdr 44
  | .class64 => fieldValue 2 info.ehdr 56

end ElfInfo

section Calls

variable {arch : Arch}

def readItem (size : Nat) (message : String) : Sys arch (List Byte) := do
  let bytes ← required (call (.readElf size)) message
  exitIf (bytes.length != size) (.fatal message)
  pure bytes

def elfClassOf (eIdent : List Byte) : Option ElfClass :=
  match (eIdent.getD 4 0).toNat with
  | 1 => some .class32
  | 2 => some .class64
  | _ => none

def detectElfClass : Sys arch ElfClass := do
  ensure (call (.seekElf 0)) "fseek to start of ELF file failed"
  let eIdent ← required (call (.readElf eiNident)) "fread of ELF ident bytes failed"
  exitIf (eIdent.length != eiNident)
    (.fatal "file is too short to contain an ELF header (%d bytes expected)")
  exitIf (eIdent.take 4 != elfMag) (.fatal "not an ELF file (bad magic bytes)")
  match elfClassOf eIdent with
  | some elfClass => pure elfClass
  | none => logFatal "unknown ELF class byte 0x%02x"

/-- `open_elf`; `rewind` reports no error. -/
def openElf (pid : Nat) : Sys arch ElfInfo := do
  ensure (call .openElf) "fopen('%s') failed"
  let elfClass ← detectElfClass
  let _ ← call .rewindElf
  let ehdr ← readItem elfClass.ehdrSize "fread of ELF header from '%s' failed"
  ensure (call .filenoElf) "fileno() on the freshly opened ELF file failed"
  let target ← required (call .readlinkElf)
    "readlink('%s') failed while resolving the absolute path of '%s'"
  pure ⟨elfClass, ehdr, target.take (maxPath - 1), pid⟩

def isPie (info : ElfInfo) : Sys arch Bool := do
  exitIf (info.ehdrType != etDyn && info.ehdrType != etExec)
    (.fatal "unsupported ELF type %d (expected ET_EXEC or ET_DYN)")
  pure (info.ehdrType == etDyn)

/-- `(off_t)(ehdr_phoff(info) + i * ehdr_phentsize(info))`: the product is of type
`size_t`, the sum of 64 bits, the result as wide as a word and signed. -/
def phdrOffset (arch : Arch) (info : ElfInfo) (index : Nat) : Int :=
  (BitVec.ofNat arch.width
    (info.ehdrPhoff + index * info.ehdrPhentsize % 2 ^ arch.width)).toInt

def phdrVaddr (info : ElfInfo) (index : Nat) (minVaddr : BitVec 64) : Sys arch (BitVec 64) := do
  ensure (call (.seekElf (phdrOffset arch info index)))
    "fseek to program header #%zu (offset %ld) failed"
  let phdr ← readItem info.elfClass.phdrSize
    (match info.elfClass with
      | .class32 => "fread of 32-bit program header #%zu failed"
      | .class64 => "fread of 64-bit program header #%zu failed")
  let vaddr := BitVec.ofNat 64 (info.elfClass.phdrVaddr phdr)
  pure (if ElfClass.phdrType phdr = ptLoad ∧ vaddr < minVaddr then vaddr else minVaddr)

def minVaddrLoop (info : ElfInfo) : List Nat → BitVec 64 → Sys arch (BitVec 64)
  | [], minVaddr => pure minVaddr
  | index :: rest, minVaddr => do
      let minVaddr ← phdrVaddr info index minVaddr
      minVaddrLoop info rest minVaddr

/-- `get_min_vaddr`; a file without `PT_LOAD` is only warned about. -/
def getMinVaddr (info : ElfInfo) : Sys arch (BitVec 64) :=
  minVaddrLoop info (List.range info.ehdrPhnum) (BitVec.ofNat 64 arch.sizeMax)

/-- The body of the loop over the maps. -/
def lowestMapping (path : List Byte) (entry : MapsEntry) (minMapsAddr : BitVec 64) : BitVec 64 :=
  if cString entry.path = cString path ∧ entry.start < minMapsAddr then entry.start
  else minMapsAddr

def getImageBaseViaElfInfo (stale : MapsEntry) (info : ElfInfo) : Sys arch (BitVec 64) := do
  if ← isPie info then
    let minVaddr ← getMinVaddr info
    let iter ← createMapsIter stale info.pid
    let minMapsAddr ← forEntries (fun entry lowest => pure (lowestMapping info.path entry lowest))
      iter.entry iter.file (BitVec.ofNat 64 arch.sizeMax)
    exitIf (minMapsAddr == BitVec.ofNat 64 arch.sizeMax)
      (.fatal "no mapping of '%s' found in /proc/%d/maps; the process may not have loaded it yet, or the path doesn't match exactly")
    pure (minMapsAddr - minVaddr)
  else pure 0

def getImageBase (stale : MapsEntry) (pid : Nat) : Sys arch (BitVec 64) := do
  let info ← openElf pid
  let imageBase ← getImageBaseViaElfInfo stale info
  ensure (call .closeElf) "fclose('%s') failed"
  pure imageBase

end Calls

end ProcessBridge.Snapshotter
