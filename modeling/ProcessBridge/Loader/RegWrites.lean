import ProcessBridge.Loader.GdtUtils

/-! Sequences of checked register writes. A sequence succeeds exactly when no
selector in it is refused, and its effect is then the composition of the
single writes in order. -/

set_option autoImplicit false

namespace ProcessBridge.Loader

open Library Common

/-- One `PB_UC_CHECK(uc_reg_write(uc, reg, &value), message)`. -/
structure RegWrite where
  reg : UcReg
  value : BitVec 64
  message : String

def writeRegs (u : Unicorn) : Engine → List RegWrite → Except Halt Engine
  | uc, [] => .ok uc
  | uc, write :: rest => do
      let uc ← pbUcCheck (ucRegWrite u uc write.reg write.value) write.message
      writeRegs u uc rest

def Engine.put (u : Unicorn) (uc : Engine) (write : RegWrite) : Engine :=
  match write.reg with
  | .qword gpr => uc.setGpr gpr write.value
  | .dword gpr => uc.setGpr gpr ((uc.gpr gpr).extractLsb' 32 32 ++ write.value.setWidth 32)
  | .rip => { uc with ip := write.value }
  | .eip => { uc with ip := (write.value.setWidth 32).setWidth 64 }
  | .eflags => { uc with eflags := u.loadEflags uc.eflags (write.value.setWidth 32) }
  | .seg segment => uc.loadSelector segment (write.value.setWidth 16)
  | .fsBase => uc.setBase .fs write.value
  | .gsBase => uc.setBase .gs write.value

/-- Only selector writes can be refused. -/
def Unicorn.Takes (u : Unicorn) (uc : Engine) (write : RegWrite) : Prop :=
  ∀ segment, write.reg = .seg segment →
    u.refusesSelector uc segment (write.value.setWidth 16) = false

def Unicorn.TakesAll (u : Unicorn) : Engine → List RegWrite → Prop
  | _, [] => True
  | uc, write :: rest => u.Takes uc write ∧ u.TakesAll (uc.put u write) rest

theorem ucRegWrite_ok_iff {u : Unicorn} {uc after : Engine} {write : RegWrite} :
    ucRegWrite u uc write.reg write.value = .ok after ↔
      u.Takes uc write ∧ uc.put u write = after := by
  cases choice : write.reg with
  | seg segment =>
      unfold ucRegWrite Unicorn.Takes Engine.put
      rw [choice]
      simp only [UcReg.seg.injEq, forall_eq']
      cases u.refusesSelector uc segment (write.value.setWidth 16) with
      | true => simp
      | false => simp
  | qword | dword | rip | eip | eflags | fsBase | gsBase =>
      simp [ucRegWrite, Unicorn.Takes, Engine.put, choice]

theorem writeRegs_ok_iff {u : Unicorn} {uc after : Engine} {writes : List RegWrite} :
    writeRegs u uc writes = .ok after ↔
      u.TakesAll uc writes ∧ writes.foldl (Engine.put u) uc = after := by
  induction writes generalizing uc with
  | nil => simp [writeRegs, Unicorn.TakesAll]
  | cons write rest ih =>
      rw [writeRegs, bind_ok_iff]
      simp only [pbUcCheck_ok_iff, ucRegWrite_ok_iff, Unicorn.TakesAll, List.foldl_cons]
      constructor
      · intro given
        obtain ⟨middle, ⟨taken, rfl⟩, finished⟩ := given
        obtain ⟨others, shape⟩ := ih.mp finished
        exact ⟨⟨taken, others⟩, shape⟩
      · intro given
        obtain ⟨⟨taken, others⟩, shape⟩ := given
        exact ⟨_, ⟨taken, rfl⟩, ih.mpr ⟨others, shape⟩⟩

theorem writeRegs_fatalOnly (u : Unicorn) (uc : Engine) (writes : List RegWrite) :
    FatalOnly (writeRegs u uc writes) := by
  induction writes generalizing uc with
  | nil => exact .ok uc
  | cons write rest ih => exact .bind (.pbUcCheck _ _) fun next _ => ih next

section Frame

variable (u : Unicorn) (uc : Engine) (write : RegWrite)

@[simp] theorem put_memory : (uc.put u write).memory = uc.memory := by
  unfold Engine.put
  split <;> rfl

@[simp] theorem put_mode : (uc.put u write).mode = uc.mode := by
  unfold Engine.put
  split <;> rfl

@[simp] theorem put_gdtrBase : (uc.put u write).gdtrBase = uc.gdtrBase := by
  unfold Engine.put
  split <;> rfl

@[simp] theorem put_gdtrLimit : (uc.put u write).gdtrLimit = uc.gdtrLimit := by
  unfold Engine.put
  split <;> rfl

end Frame

/-- Register writes leave memory, the mode and the table register alone. -/
theorem foldl_put_frame (u : Unicorn) (uc : Engine) (writes : List RegWrite) :
    (writes.foldl (Engine.put u) uc).memory = uc.memory ∧
      (writes.foldl (Engine.put u) uc).mode = uc.mode ∧
      (writes.foldl (Engine.put u) uc).gdtrBase = uc.gdtrBase ∧
      (writes.foldl (Engine.put u) uc).gdtrLimit = uc.gdtrLimit := by
  induction writes generalizing uc with
  | nil => exact ⟨rfl, rfl, rfl, rfl⟩
  | cons write rest ih => simpa using ih (uc.put u write)

theorem Engine.HoldsGdt.foldl_put {uc : Engine} {table : GdtArray} (held : uc.HoldsGdt table)
    (u : Unicorn) (writes : List RegWrite) : (writes.foldl (Engine.put u) uc).HoldsGdt table := by
  obtain ⟨memory, _, base, limit⟩ := foldl_put_frame u uc writes
  exact ⟨by rw [base, held.base], by rw [limit, held.limit], by rw [memory]; exact held.mapped⟩

@[simp] theorem hiddenBase_loadSelector (uc : Engine) (which : SegReg)
    (loaded selector : BitVec 16) :
    (uc.loadSelector which loaded).hiddenBase selector = uc.hiddenBase selector := rfl

theorem segment_loadSelector (uc : Engine) (which other : SegReg) (selector : BitVec 16) :
    (uc.loadSelector which selector).segment other =
      if other = which then ⟨selector, uc.hiddenBase selector⟩ else uc.segment other := by
  simp only [Engine.loadSelector, Engine.setSegment, Function.update_apply]

/-- A sequence is taken when each of its writes is taken in every engine that
shares a property no register write can end. -/
theorem takesAll_of_stable {u : Unicorn} (stable : Engine → Prop) {uc : Engine}
    {writes : List RegWrite} (start : stable uc)
    (kept : ∀ uc write, write ∈ writes → stable uc → stable (uc.put u write))
    (taken : ∀ uc write, write ∈ writes → stable uc → u.Takes uc write) :
    u.TakesAll uc writes := by
  induction writes generalizing uc with
  | nil => trivial
  | cons write rest ih =>
      refine ⟨taken uc write (by simp) start, ?_⟩
      exact ih (kept uc write (by simp) start)
        (fun uc later member => kept uc later (List.mem_cons_of_mem _ member))
        (fun uc later member => taken uc later (List.mem_cons_of_mem _ member))

theorem selector_roundtrip {width : Nat} {value : BitVec width} (narrow : value.toNat < 2 ^ 16) :
    (value.setWidth 16).setWidth width = value := by
  apply BitVec.eq_of_toNat_eq
  have small := value.isLt
  simp only [BitVec.toNat_setWidth]
  rw [Nat.mod_eq_of_lt narrow, Nat.mod_eq_of_lt small]

end ProcessBridge.Loader
