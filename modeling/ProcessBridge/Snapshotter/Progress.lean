import ProcessBridge.Snapshotter.Arrival
import ProcessBridge.Snapshotter.ImageBase
import ProcessBridge.Snapshotter.Interrupted

/-! When the snapshotter gets to its end. If nothing is refused that matters, the
executable can be located and the child comes by the breakpoint, every stage
returns. -/

set_option autoImplicit false

namespace ProcessBridge.Snapshotter

open Library Common Program

variable {arch : Arch}

/-!
## Kernels that refuse little
-/

/-- The calls whose failure may be a proper answer. -/
def Call.optional : Call arch → Bool
  | .processVmReadv _ _ _ | .getThreadArea _ => true
  | _ => false

def Kernel.Grants (kernel : Kernel arch) : Prop :=
  ∀ count op, op.optional = false → kernel.fails count op = false

private theorem granting_perform (kernel : Kernel arch) (count : Nat) {op : Call arch}
    (required : op.optional = false) (world : World arch) :
    kernel.granting.perform count op world = kernel.perform count op world := by
  cases op with
  | processVmReadv => cases required
  | _ => rfl

section Grants

variable {kernel : Kernel arch} (grants : kernel.Grants)
include grants

theorem Kernel.Grants.answer {op : Call arch} (required : op.optional = false)
    (world : World arch) : kernel.answer op world = kernel.granting.answer op world := by
  rcases kernel.answer_cases op world with ⟨refused, _⟩ | ⟨_, answered⟩
  · cases (grants _ op required).symm.trans refused
  · rw [answered, granting_answer, granting_perform kernel _ required]

theorem Kernel.Grants.run {α : Type} {program : Sys arch α}
    (uses : program.Uses (·.optional = false)) (world : World arch) :
    program.run kernel.answer world = program.run kernel.granting.answer world :=
  uses.run_congr (fun _ world required => grants.answer required world) world

/-- What writes the file cannot tell the two kernels apart. -/
theorem Kernel.Grants.alike {op : Call arch} (writes : op = .openSnapshot ∨ op.fills = true)
    {world twin : World arch} (alike : world.Alike twin) :
    (kernel.answer op world).1 = (kernel.granting.answer op twin).1 ∧
      (kernel.answer op world).2.Alike (kernel.granting.answer op twin).2 := by
  rcases writes with rfl | fills
  · rw [grants.answer rfl, granting_answer, granting_answer]
    exact ⟨rfl, by simp [Kernel.perform, alike.count], rfl, alike.child⟩
  · cases absorbed : op.absorbed with
    | true =>
        cases op with
        | processVmReadv address size buffer => exact readv_agrees kernel address size buffer alike
        | kill | getThreadArea | rewindElf => cases fills
        | _ => cases absorbed
    | false =>
        have required : op.optional = false := by
          cases op with
          | processVmReadv => cases absorbed
          | getThreadArea => cases fills
          | _ => rfl
        rcases kernel.answer_cases op world with ⟨refused, _⟩ | ⟨_, answered⟩
        · cases (grants _ op required).symm.trans refused
        · rw [answered, granting_answer]
          exact perform_fills kernel fills absorbed alike

/-- Reads of the child's memory may fail; the file is written all the same. -/
theorem Kernel.Grants.dumpSnapshot {world : World arch} {pid : Nat} (small : pid < 2 ^ 31)
    (stale : MapsEntry) (buffer : Buffer) (snapshot : List Byte) {lines : List MapsLine}
    (parse : List.Forall₂ (fun text line => sscanfMaps text = some line)
      (kernel.maps (world.log.length + 2)) lines) :
    ∃ after, (dumpSnapshot stale buffer snapshot pid).run kernel.answer world = (.ok (), after) ∧
      after.child = world.child := by
  have opens : (call .openSnapshot : Sys arch Bool).Uses
      fun op => op = .openSnapshot ∨ op.fills = true := Uses.ask (.inl rfl)
  have uses : (Snapshotter.dumpSnapshot stale buffer snapshot pid : Sys arch Unit).Uses
      fun op => op = .openSnapshot ∨ op.fills = true :=
    (Uses.ensure opens _).bind fun _ => fillSnapshot_uses (fun _ => .inr) stale buffer snapshot pid
  obtain ⟨same, _⟩ := uses.run_alike kernel.answer kernel.granting.answer World.Alike
    (fun _ _ _ writes alike => grants.alike writes alike) (.refl world)
  obtain ⟨_, _, _, runs⟩ := dumpSnapshot_output kernel.granting world small buffer snapshot parse
  obtain ⟨_, returned, _⟩ := (runs stale).resolve_right fun refused =>
    refused.1 (granting_cooperates kernel)
  rw [returned] at same
  have aside := Uses.aside (dumpSnapshot_uses stale buffer snapshot pid) kernel world
  exact ⟨((Snapshotter.dumpSnapshot stale buffer snapshot pid).run kernel.answer world).2,
    Prod.ext same rfl, aside.child⟩

end Grants

/-!
## The place of the breakpoint
-/

/-- The executable is linked to its addresses, or it is position independent, loaded at a
bias, and its lowest segment starts a page. -/
inductive Kernel.Places (kernel : Kernel arch) (elfClass : ElfClass) : Int → Prop where
  | fixed (type : (kernel.elfInfo elfClass).ehdrType = etExec) : Places kernel elfClass 0
  | dynamic {bias : Int} {lowest : Nat} (loads : kernel.Loads (kernel.elfInfo elfClass) bias)
      (least : (kernel.loadVaddrs (kernel.elfInfo elfClass)).min? = some lowest)
      (page : lowest % pageSize = 0) (small : lowest < 2 ^ arch.width)
      (fits : bias + lowest < 2 ^ arch.width) : Places kernel elfClass bias

theorem Kernel.Places.granting {kernel : Kernel arch} {elfClass : ElfClass} {bias : Int}
    (places : kernel.Places elfClass bias) : kernel.granting.Places elfClass bias := by
  cases places with
  | fixed type => exact .fixed type
  | dynamic loads least page small fits =>
      exact .dynamic ⟨loads.dynamic, loads.headers, loads.size, loads.path, loads.aligned,
        loads.listed⟩ least page small fits

section Place

variable {kernel : Kernel arch} (cooperates : kernel.Cooperates) {world : World arch}
  {tracee : Tracee arch} {elfClass : ElfClass} {bias : Int}
include cooperates

theorem Kernel.Cooperates.unspoiled (clean : ¬ world.Spoiled) {α : Type} (program : Sys arch α) :
    ¬ (program.run kernel.answer world).2.Spoiled := by
  refine Kernel.unspoiled_run (fun count op refused => ?_) program clean
  cases (cooperates count op).symm.trans refused

private theorem getImageBase_places (stopped : world.child = .stopped tracee)
    (clean : ¬ world.Spoiled)
    (readable : kernel.HasElf elfClass) (small : kernel.pid < 2 ^ 31)
    (places : kernel.Places elfClass bias) (stale : MapsEntry) :
    ∃ after, (getImageBase stale kernel.pid).run kernel.answer world =
        (.ok (BitVec.ofInt 64 bias), after) ∧ after.child = .stopped tracee := by
  have intact := cooperates.unspoiled clean (getImageBase stale kernel.pid)
  have aside := Uses.aside (getImageBase_uses (fun _ => locates_aside) stale kernel.pid) kernel world
  have found : ((getImageBase stale kernel.pid).run kernel.answer world).1 =
      .ok (BitVec.ofInt 64 bias) := by
    cases places with
    | fixed type =>
        have shown : world.Shows (.stopped tracee) (contChildren world.log) world.reports :=
          ⟨stopped, rfl, rfl⟩
        have spoils : Excuse kernel World.Spoiled (fun _ after => False ∨ after.Spoiled) :=
          kernel.spoils fun _ _ => .inr
        have ends := Triple.unspoiled (getImageBase_fixed spoils readable stale type) shown intact
        obtain ⟨base, returned, rfl⟩ := ends.resolve_right fun failed => failed.1
        exact returned
    | dynamic loads least page narrow fits =>
        rcases getImageBase_outcome stopped readable small intact loads least with
          ⟨base, returned, high, low, rfl, start, _, vaddr⟩ | ⟨missing, _⟩
        · rw [returned, (loads.difference_iff least start vaddr).mpr ⟨page, narrow⟩]
        · have below := (loads.start_lt_iff least page).mpr fits
          omega
  exact ⟨_, Prod.ext found rfl, aside.child.trans stopped⟩

private theorem forkChild_run (world : World arch) {signal : Nat}
    (first : ∀ count, kernel.report count .exec kernel.image = some (.stopped signal, tracee)) :
    ∃ after, forkChild.run kernel.answer world = (.ok kernel.pid, after) ∧
      after.child = .stopped tracee := by
  obtain ⟨forked, forks, going⟩ : ∃ forked, (required (call .fork) "fork failed").run kernel.answer
      world = (.ok kernel.pid, forked) ∧ forked.child = .running .exec kernel.image :=
    ⟨_, run_required_ok _ (run_call cooperates world .fork), rfl⟩
  have waits := run_waitpid cooperates "waitpid(%d) failed" going (first _)
  rw [forkChild, run_bind_ok forks, run_bind_ok waits]
  exact ⟨_, rfl, rfl⟩

/-- From where the child starts, the breakpoint stops it where it would have arrived. -/
theorem runToArrival {machine : Machine arch} {hookAddr : BitVec arch.width}
    {start arrived : Tracee arch} {steps : Nat} (stopped : world.child = .stopped start)
    (follows : kernel.Follows machine) (ignores : machine.Ignores hookAddr)
    (away : start.ip ≠ hookAddr) (runs : machine.Runs hookAddr start steps arrived)
    (here : arrived.ip = hookAddr) :
    ∃ after, (createBreakpoint hookAddr >>= executeUpToBreakpoint).run kernel.answer world =
        (.ok (), after) ∧ after.child = .stopped arrived := by
  obtain ⟨armed, creates, child⟩ := run_createBreakpoint cooperates stopped hookAddr
  obtain ⟨executes, word⟩ := runs_armed ignores runs
  have trapped : (arrived.armed hookAddr).memory (arrived.armed hookAddr).ip = 0xCC := by
    have counter : (arrived.armed hookAddr).ip = hookAddr := here
    rw [counter, Tracee.armed_memory, if_pos rfl]
  have elsewhere : (start.armed hookAddr).ip ≠
      Breakpoint.hookAddr ⟨hookAddr, start.savedWord hookAddr⟩ := away
  obtain ⟨after, ran, rewound⟩ := run_execute cooperates child elsewhere
    (follows.traps _ _ _ executes trapped)
  refine ⟨after, (run_bind_ok creates).trans ran, (rewound rfl).trans ?_⟩
  rw [rewound_trap word]

/-- The child is brought to the breakpoint, undisturbed. -/
theorem reachBreakpoint_arrives {machine : Machine arch} {hookAddr : BitVec arch.width}
    {start arrived : Tracee arch} {steps signal : Nat} {addr : BitVec arch.width}
    (clean : ¬ world.Spoiled)
    (first : ∀ count, kernel.report count .exec kernel.image = some (.stopped signal, start))
    (readable : kernel.HasElf elfClass) (small : kernel.pid < 2 ^ 31)
    (places : kernel.Places elfClass bias) (place : hookAddr = BitVec.ofInt _ (bias + addr.toNat))
    (follows : kernel.Follows machine) (ignores : machine.Ignores hookAddr)
    (away : start.ip ≠ hookAddr) (runs : machine.Runs hookAddr start steps arrived)
    (here : arrived.ip = hookAddr) (stale : MapsEntry) :
    ∃ after, (reachBreakpoint stale addr).run kernel.answer world = (.ok kernel.pid, after) ∧
      after.child = .stopped arrived := by
  obtain ⟨started, forks, stopped⟩ := forkChild_run cooperates world first
  have intact : ¬ started.Spoiled := by
    have kept := cooperates.unspoiled clean forkChild
    rwa [forks] at kept
  obtain ⟨located, bases, still⟩ :=
    getImageBase_places cooperates stopped intact readable small places stale
  obtain ⟨after, arrives, child⟩ := runToArrival cooperates still follows ignores away runs here
  obtain ⟨breakpoint, armed, creates, executes⟩ := run_bind_ok_iff.mp arrives
  refine ⟨after, ?_, child⟩
  rw [reachBreakpoint, run_bind_ok forks, run_bind_ok bases, setWidth_ofInt_add, ← place,
    run_bind_ok creates, run_bind_ok executes]
  rfl

end Place

end ProcessBridge.Snapshotter
