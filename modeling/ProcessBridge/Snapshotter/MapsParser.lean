import Mathlib.Data.List.TakeWhile
import ProcessBridge.Snapshotter.Kernel

/-! Reading `/proc/<pid>/maps`. The `sscanf` format is followed directive by
directive; the parsed fields go into an entry that is reused from line to line. -/

set_option autoImplicit false

namespace ProcessBridge.Snapshotter

open Library Common

/-!
## The format
-/

def isSpace (byte : Byte) : Bool := byte = 0x20 || (0x09 ≤ byte && byte ≤ 0x0D)

def hexDigit (byte : Byte) : Option Nat :=
  if 0x30 ≤ byte ∧ byte ≤ 0x39 then some (byte.toNat - 0x30)
  else if 0x61 ≤ byte ∧ byte ≤ 0x66 then some (byte.toNat - 0x61 + 10)
  else if 0x41 ≤ byte ∧ byte ≤ 0x46 then some (byte.toNat - 0x41 + 10)
  else none

def skipSpace (text : List Byte) : List Byte := text.dropWhile isSpace

def hexValue (digits : List Byte) : Nat :=
  digits.foldl (fun value byte => 16 * value + (hexDigit byte).getD 0) 0

def scanSign : List Byte → Bool × List Byte
  | 0x2D :: rest => (true, rest)
  | 0x2B :: rest => (false, rest)
  | text => (false, text)

def scanPrefix : List Byte → List Byte
  | 0x30 :: 0x78 :: rest => rest
  | 0x30 :: 0x58 :: rest => rest
  | text => text

/-- Conversion as `strtoull` makes it: saturating, with the sign applied modulo `2^64`. -/
def hexNumber (negative : Bool) (value : Nat) : BitVec 64 :=
  if 2 ^ 64 ≤ value then -1
  else if negative then -BitVec.ofNat 64 value
  else BitVec.ofNat 64 value

def scanHex (text : List Byte) : Option (BitVec 64 × List Byte) :=
  let (negative, unsigned) := scanSign (skipSpace text)
  let digits := scanPrefix unsigned
  let run := digits.takeWhile fun byte => (hexDigit byte).isSome
  if run = [] then none
  else some (hexNumber negative (hexValue run), digits.drop run.length)

def scanLiteral (expected : Byte) : List Byte → Option (List Byte)
  | [] => none
  | byte :: rest => if byte = expected then some rest else none

def scanWord (limit : Nat) (text : List Byte) : Option (List Byte × List Byte) :=
  let run := ((skipSpace text).takeWhile fun byte => !isSpace byte).take limit
  if run = [] then none else some (run, (skipSpace text).drop run.length)

def scanSkip (text : List Byte) : Option (List Byte) :=
  let rest := skipSpace text
  let run := rest.takeWhile fun byte => !isSpace byte
  if run = [] then none else some (rest.drop run.length)

abbrev PathText := { text : List Byte // text.length < maxPath ∧ 0 ∉ text }

/-- `%4095[^\n]`; the end of the string ends it too. -/
def scanPath (text : List Byte) : Option PathText :=
  let run := (text.takeWhile fun byte => byte ≠ 0x0A ∧ byte ≠ 0).take (maxPath - 1)
  if run = [] then none
  else some ⟨run, by
    refine ⟨?_, fun zero => ?_⟩
    · have bound : run.length ≤ maxPath - 1 := List.length_take_le _ _
      have positive : 0 < maxPath := by decide
      omega
    · have kept := List.mem_takeWhile_imp (List.take_subset _ _ zero)
      simp at kept⟩

structure MapsLine where
  start : BitVec 64
  «end» : BitVec 64
  perms : List Byte
  fileOffset : BitVec 64
  path : Option PathText
deriving DecidableEq

/-- The part of a buffer that a C string function sees. -/
def cString (buffer : List Byte) : List Byte := buffer.takeWhile fun byte => byte ≠ 0

def scanTail (text : List Byte) : Option PathText := do
  let text ← scanSkip text
  let text ← scanSkip text
  scanPath (skipSpace text)

/-- The whole format: two addresses, permissions, offset and, if there is one, the path;
nothing if fewer than four fields match. -/
def sscanfMaps (line : List Byte) : Option MapsLine := do
  let (start, text) ← scanHex (cString line)
  let text ← scanLiteral 0x2D text
  let (limit, text) ← scanHex text
  let (perms, text) ← scanWord 4 text
  let (fileOffset, text) ← scanHex text
  some { start, «end» := limit, perms, fileOffset, path := scanTail text }

/-!
## The entry that is filled in place
-/

/-- The path buffer after `sscanf` or, for a line without a path, after
`entry->path[0] = '\0'`. -/
def storePath (buffer : List Byte) : Option PathText → List Byte
  | some text => text.val ++ 0 :: buffer.drop (text.val.length + 1)
  | none => 0 :: buffer.drop 1

theorem storePath_length {buffer : List Byte} (full : buffer.length = maxPath)
    (path : Option PathText) : (storePath buffer path).length = maxPath := by
  cases path with
  | none =>
      simp only [storePath, List.length_cons, List.length_drop, full]
      rfl
  | some text =>
      have bound := text.property.1
      simp only [storePath, List.length_append, List.length_cons, List.length_drop, full]
      omega

def permission (perms : List Byte) (index : Nat) (letter : Byte) : Byte :=
  if perms.getD index 0 = letter then 1 else 0

def fillEntry (entry : MapsEntry) (line : MapsLine) : MapsEntry where
  start := line.start
  «end» := line.end
  read := permission line.perms 0 0x72
  write := permission line.perms 1 0x77
  exec := permission line.perms 2 0x78
  shared := permission line.perms 3 0x73
  fileOffset := line.fileOffset
  path := storePath entry.path line.path
  pathSize := storePath_length entry.pathSize line.path

/-- The parser ends every path it stores. -/
theorem fillEntry_ended (entry : MapsEntry) (line : MapsLine) : 0 ∈ (fillEntry entry line).path := by
  change 0 ∈ storePath entry.path line.path
  cases line.path with
  | none => exact List.mem_cons_self
  | some text => exact List.mem_append_right _ List.mem_cons_self

section Iteration

variable {arch : Arch}

def parseMapsStr (mapsStr : List Byte) (entry : MapsEntry) : Sys arch MapsEntry :=
  match sscanfMaps mapsStr with
  | some line => pure (fillEntry entry line)
  | none => logFatal "failed to parse /proc/<pid>/maps line: \"%s\""

structure MapsIter where
  entry : MapsEntry
  file : List (List Byte)

def procBufSize : Nat := 22

/-- `create_maps_iter`; the entry is whatever the caller's memory holds. -/
def createMapsIter (stale : MapsEntry) (pid : Nat) : Sys arch MapsIter := do
  exitIf (decide (procBufSize ≤ ("/proc/" ++ toString pid ++ "/maps").length))
    (.fatal "pid %d doesn't fit in the /proc/<pid>/maps path buffer")
  let file ← required (call .openMaps) "fopen('%s') failed"
  pure ⟨stale, file⟩

def nextLine (entry : MapsEntry) (line : List Byte) : Sys arch MapsEntry := do
  ensure (call .getline) "getline() on /proc/<pid>/maps failed"
  parseMapsStr line entry

/-- `next` at the end of the file. -/
def nextEnd : Sys arch Unit := do
  ensure (call .getline) "getline() on /proc/<pid>/maps failed"
  ensure (call .closeMaps) "fclose() on /proc/<pid>/maps failed"

def next (iter : MapsIter) : Sys arch (Option MapsIter) :=
  match iter.file with
  | [] => do
      nextEnd
      pure none
  | line :: rest => do
      let entry ← nextLine iter.entry line
      pure (some ⟨entry, rest⟩)

/-- `for (entry = next(&iter); entry != NULL; entry = next(&iter))`. -/
def forEntries {σ : Type} (body : MapsEntry → σ → Sys arch σ) :
    MapsEntry → List (List Byte) → σ → Sys arch σ
  | _, [], state => do
      nextEnd
      pure state
  | entry, line :: rest, state => do
      let entry ← nextLine entry line
      let state ← body entry state
      forEntries body entry rest state

end Iteration

end ProcessBridge.Snapshotter
