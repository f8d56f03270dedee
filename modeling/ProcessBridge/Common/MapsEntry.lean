import ProcessBridge.Library.Bytes

/-! The packed header that precedes the content of each mapping. The whole path
buffer belongs to the header, not only its NUL-terminated beginning. -/

set_option autoImplicit false

namespace ProcessBridge.Common

open Library

def maxPath : Nat := 4096

@[ext] structure MapsEntry where
  start : BitVec 64
  «end» : BitVec 64
  read : Byte
  write : Byte
  exec : Byte
  shared : Byte
  fileOffset : BitVec 64
  path : List Byte
  pathSize : path.length = maxPath

namespace MapsEntry

/-- `sizeof(maps_entry_t)`, as the static assertion beside the structure has it. -/
def size : Nat := 28 + maxPath

def bytes (entry : MapsEntry) : List Byte :=
  littleBytes 8 entry.start.toNat ++ littleBytes 8 entry.end.toNat ++
    [entry.read, entry.write, entry.exec, entry.shared] ++
    littleBytes 8 entry.fileOffset.toNat ++ entry.path

def ofBytes (bytes : List Byte) (exact : bytes.length = size) : MapsEntry where
  start := BitVec.ofNat 64 (fieldValue 8 bytes 0)
  «end» := BitVec.ofNat 64 (fieldValue 8 bytes 8)
  read := bytes.getD 16 0
  write := bytes.getD 17 0
  exec := bytes.getD 18 0
  shared := bytes.getD 19 0
  fileOffset := BitVec.ofNat 64 (fieldValue 8 bytes 20)
  path := bytes.drop 28
  pathSize := by simp [exact, size]

/-- The byte count of the mapping, in the loader's 64-bit arithmetic. -/
def mappingSize (entry : MapsEntry) : Nat := (entry.end - entry.start).toNat

@[simp] theorem bytes_length (entry : MapsEntry) : entry.bytes.length = size := by
  simp [bytes, entry.pathSize, size]
  omega

private def fieldBytes (start limit offset : List Byte) (read write exec shared : Byte)
    (path : List Byte) : List Byte :=
  start ++ (limit ++ (read :: write :: exec :: shared :: (offset ++ path)))

private theorem ofBytes_fieldBytes {start limit offset path : List Byte}
    {read write exec shared : Byte} (startSize : start.length = 8) (limitSize : limit.length = 8)
    (offsetSize : offset.length = 8) (pathSize : path.length = maxPath)
    (exact : (fieldBytes start limit offset read write exec shared path).length = size) :
    ofBytes (fieldBytes start limit offset read write exec shared path) exact =
      { start := BitVec.ofNat 64 (littleValue start), «end» := BitVec.ofNat 64 (littleValue limit),
        read, write, exec, shared, fileOffset := BitVec.ofNat 64 (littleValue offset),
        path, pathSize } := by
  have first : (fieldBytes start limit offset read write exec shared path).drop 8 =
      limit ++ (read :: write :: exec :: shared :: (offset ++ path)) := by
    rw [fieldBytes, List.drop_left' startSize]
  have second : (fieldBytes start limit offset read write exec shared path).drop 16 =
      read :: write :: exec :: shared :: (offset ++ path) := by
    rw [show 16 = 8 + 8 from rfl, ← List.drop_drop, first, List.drop_left' limitSize]
  have third : (fieldBytes start limit offset read write exec shared path).drop 20 =
      offset ++ path := by
    rw [show 20 = 16 + 4 from rfl, ← List.drop_drop, second]
    rfl
  have fourth : (fieldBytes start limit offset read write exec shared path).drop 28 = path := by
    rw [show 28 = 20 + 8 from rfl, ← List.drop_drop, third, List.drop_left' offsetSize]
  have flag : ∀ index, (fieldBytes start limit offset read write exec shared path).getD (16 + index) 0
      = (read :: write :: exec :: shared :: (offset ++ path)).getD index 0 := by
    intro index
    rw [List.getD_eq_getElem?_getD, ← List.getElem?_drop, second, List.getD_eq_getElem?_getD]
  unfold ofBytes
  simp only [mk.injEq]
  refine ⟨?_, ?_, flag 0, flag 1, flag 2, flag 3, ?_, fourth⟩
  · rw [fieldValue, List.drop_zero, fieldBytes, List.take_left' startSize]
  · rw [fieldValue, first, List.take_left' limitSize]
  · rw [fieldValue, third, List.take_left' offsetSize]

private theorem word_roundtrip (value : BitVec 64) :
    BitVec.ofNat 64 (littleValue (littleBytes 8 value.toNat)) = value := by
  apply BitVec.eq_of_toNat_eq
  have small := value.isLt
  rw [littleValue_littleBytes, BitVec.toNat_ofNat]
  omega

private theorem ofBytes_bytes (entry : MapsEntry) (exact : entry.bytes.length = size) :
    ofBytes entry.bytes exact = entry := by
  have shape : entry.bytes = fieldBytes (littleBytes 8 entry.start.toNat)
      (littleBytes 8 entry.end.toNat) (littleBytes 8 entry.fileOffset.toNat)
      entry.read entry.write entry.exec entry.shared entry.path := by
    simp [bytes, fieldBytes]
  simp only [shape]
  rw [ofBytes_fieldBytes (by simp) (by simp) (by simp) entry.pathSize]
  simp only [word_roundtrip]

theorem bytes_injective : Function.Injective bytes := by
  intro left right same
  have decoded := ofBytes_bytes left left.bytes_length
  simp only [same] at decoded
  exact decoded.symm.trans (ofBytes_bytes right right.bytes_length)

private theorem bytes_roundtrip {word : List Byte} (exact : word.length = 8) :
    littleBytes 8 (BitVec.ofNat 64 (littleValue word)).toNat = word := by
  have small := littleValue_lt word
  rw [exact] at small
  rw [BitVec.toNat_ofNat, Nat.mod_eq_of_lt (by simpa using small)]
  have encoded := littleBytes_littleValue word
  rwa [exact] at encoded

/-- Every string of the right length is the encoding of some header. -/
theorem bytes_ofBytes (input : List Byte) (exact : input.length = size) :
    (ofBytes input exact).bytes = input := by
  have split : ∃ start limit offset read write exec shared path,
      start.length = 8 ∧ limit.length = 8 ∧ offset.length = 8 ∧ path.length = maxPath ∧
        input = fieldBytes start limit offset read write exec shared path := by
    have long : input.length = 28 + maxPath := exact
    have quad : ∃ read write exec shared, (input.drop 16).take 4 = [read, write, exec, shared] :=
      List.length_eq_four.mp (by simp only [List.length_take, List.length_drop]; omega)
    obtain ⟨read, write, exec, shared, flags⟩ := quad
    refine ⟨input.take 8, (input.drop 8).take 8, (input.drop 20).take 8, read, write, exec, shared,
      input.drop 28, ?_, ?_, ?_, ?_, ?_⟩
    iterate 4 (simp only [List.length_take, List.length_drop]; omega)
    have behind : input.drop 16 = read :: write :: exec :: shared :: input.drop 20 := by
      rw [← List.take_append_drop 4 (input.drop 16), flags, List.drop_drop]
      rfl
    have ahead : input.drop 8 = (input.drop 8).take 8 ++ input.drop 16 := by
      rw [← List.drop_drop (i := 8) (j := 8), List.take_append_drop]
    have middle : input.drop 20 = (input.drop 20).take 8 ++ input.drop 28 := by
      rw [← List.drop_drop (i := 8) (j := 20), List.take_append_drop]
    rw [fieldBytes, ← middle, ← behind, ← ahead, List.take_append_drop]
  obtain ⟨start, limit, offset, read, write, exec, shared, path, startSize, limitSize, offsetSize,
    pathSize, rfl⟩ := split
  rw [ofBytes_fieldBytes startSize limitSize offsetSize pathSize]
  simp only [bytes, fieldBytes, bytes_roundtrip startSize, bytes_roundtrip limitSize,
    bytes_roundtrip offsetSize, List.append_assoc, List.cons_append, List.nil_append]

end MapsEntry

end ProcessBridge.Common
