import Mathlib.Data.List.Induction
import ProcessBridge.Library.Numerals

/-! The log that both programs write to standard error. Its threshold comes from the
environment, which is looked at once, unless the program has set it before. -/

set_option autoImplicit false

namespace ProcessBridge.Utilities

open Library

inductive LogLevel where
  | debug
  | info
  | warn
  | error
deriving DecidableEq, Repr

def LogLevel.value : LogLevel → Nat
  | debug => 0
  | info => 1
  | warn => 2
  | error => 3

def ascii (text : String) : List Byte := text.toList.map fun char => BitVec.ofNat 8 char.toNat

def levelName : LogLevel → List Byte
  | .debug => ascii "DEBUG"
  | .info => ascii "INFO"
  | .warn => ascii "WARN"
  | .error => ascii "ERROR"

def toLower (byte : Byte) : Byte := if 0x41 ≤ byte ∧ byte ≤ 0x5A then byte + 0x20 else byte

/-- `strcasecmp(left, right) == 0`. -/
def sameIgnoringCase (left right : List Byte) : Bool :=
  decide (left.map toLower = right.map toLower)

def parseLevel (name : List Byte) : Option LogLevel :=
  if sameIgnoringCase name (ascii "DEBUG") then some .debug
  else if sameIgnoringCase name (ascii "INFO") then some .info
  else if sameIgnoringCase name (ascii "WARN") || sameIgnoringCase name (ascii "WARNING") then
    some .warn
  else if sameIgnoringCase name (ascii "ERROR") then some .error
  else none

/-- `g_min_level` and `g_initialized`, and what has been written to standard error. -/
structure LogState where
  minLevel : LogLevel
  initialized : Bool
  stderr : List Byte
deriving DecidableEq, Repr

def LogState.initial : LogState := ⟨.info, false, []⟩

def unknownLevel (env : List Byte) : List Byte :=
  ascii "log: unknown PROCESS_BRIDGE_LOG_LEVEL=\"" ++ env ++
    ascii "\", expected DEBUG/INFO/WARN/ERROR, defaulting to INFO\n"

/-- `log_init`, where `env` is the value of `PROCESS_BRIDGE_LOG_LEVEL` at that moment. -/
def logInit (env : Option (List Byte)) (state : LogState) : LogState :=
  if state.initialized then state
  else
    let state := { state with initialized := true }
    match env with
    | none => state
    | some env =>
        match parseLevel env with
        | some level => { state with minLevel := level }
        | none => { state with stderr := state.stderr ++ unknownLevel env }

def logSetLevel (level : LogLevel) (state : LogState) : LogState :=
  { state with initialized := true, minLevel := level }

/-- The fields of `struct tm` that the log shows. -/
structure ClockTime where
  hour : Nat
  min : Nat
  sec : Nat
deriving DecidableEq, Repr

/-- `strftime` with `%H:%M:%S`, or question marks if there is no local time. -/
def timeText : Option ClockTime → List Byte
  | none => ascii "??:??:??"
  | some time =>
      zeroPadded 2 (numeral 10 time.hour) ++ 0x3A :: (zeroPadded 2 (numeral 10 time.min) ++
        0x3A :: zeroPadded 2 (numeral 10 time.sec))

/-- What is behind the last slash, if there is one. -/
def basename (file : List Byte) : List Byte := (file.reverse.takeWhile (· ≠ 0x2F)).reverse

/-- One message: where it comes from, its text once formatted, and the time. -/
structure LogMessage where
  level : LogLevel
  file : List Byte
  line : Nat
  text : List Byte
  time : Option ClockTime
deriving DecidableEq, Repr

def LogMessage.record (message : LogMessage) : List Byte :=
  timeText message.time ++ ascii " [" ++
    (levelName message.level ++ List.replicate (5 - (levelName message.level).length) 0x20) ++
    ascii "] " ++ basename message.file ++ ascii ":" ++ numeral 10 message.line ++ ascii ": " ++
    message.text ++ ascii "\n"

def logLog (env : Option (List Byte)) (message : LogMessage) (state : LogState) : LogState :=
  let state := if state.initialized then state else logInit env state
  if message.level.value < state.minLevel.value then state
  else { state with stderr := state.stderr ++ message.record }

/-!
## Runs
-/

inductive LogCall where
  | init
  | setLevel (level : LogLevel)
  | log (message : LogMessage)
deriving DecidableEq, Repr

def LogCall.apply (env : Option (List Byte)) : LogCall → LogState → LogState
  | .init => logInit env
  | .setLevel level => logSetLevel level
  | .log message => logLog env message

/-- The calls of a program, each with the environment it finds. -/
abbrev LogRun := List (Option (List Byte) × LogCall)

def LogRun.final (calls : LogRun) : LogState :=
  calls.foldl (fun state call => call.2.apply call.1 state) .initial

theorem LogRun.final_append (calls : LogRun) (env : Option (List Byte)) (call : LogCall) :
    LogRun.final (calls ++ [(env, call)]) = call.apply env (LogRun.final calls) := by
  rw [LogRun.final, List.foldl_append]
  rfl

/-- What the environment asks for. -/
def envLevel (env : Option (List Byte)) : LogLevel := (env.bind parseLevel).getD .info

def LogCall.level? : LogCall → Option LogLevel
  | .setLevel level => some level
  | .init | .log _ => none

namespace LogRun

/-- The level that was set last or, if none was, that of the environment of the first
call. -/
def threshold (calls : LogRun) : LogLevel :=
  match (calls.filterMap fun call => call.2.level?).getLast? with
  | some level => level
  | none => (calls.head?.map fun call => envLevel call.1).getD .info

/-- An unknown level is complained about once, unless the first call sets one. -/
def complaint (calls : LogRun) : List Byte :=
  match calls.head? with
  | some (some env, call) =>
      if call.level?.isSome || (parseLevel env).isSome then [] else unknownLevel env
  | _ => []

def shownAt (level : LogLevel) : LogCall → List Byte
  | .log message => if message.level.value < level.value then [] else message.record
  | .init | .setLevel _ => []

/-- What a call of the run shows: its message, if that is not below the threshold of the
moment. -/
def shownBy (calls : LogRun) (index : Nat) : List Byte :=
  match calls[index]? with
  | some (_, call) => shownAt (threshold (calls.take (index + 1))) call
  | none => []

def shown (calls : LogRun) : List Byte := (List.range calls.length).flatMap calls.shownBy

section Appended

variable (calls : LogRun) (env : Option (List Byte)) (call : LogCall)

private theorem threshold_set (level : LogLevel) :
    threshold (calls ++ [(env, .setLevel level)]) = level := by
  simp [threshold, LogCall.level?]

private theorem threshold_first (plain : call.level? = none) : threshold
    [(env, call)] = envLevel env := by
  simp [threshold, plain]

private theorem threshold_later (started : calls ≠ []) (plain : call.level? = none) :
    threshold (calls ++ [(env, call)]) = threshold calls := by
  simp [threshold, List.filterMap_append, plain, List.head?_append_of_ne_nil _ started]

private theorem complaint_later (started : calls ≠ []) :
    complaint (calls ++ [(env, call)]) = complaint calls := by
  rw [complaint, List.head?_append_of_ne_nil _ started]
  rfl

private theorem shownBy_append {index : Nat} (inside : index < calls.length) :
    shownBy (calls ++ [(env, call)]) index = shownBy calls index := by
  rw [shownBy, shownBy, List.getElem?_append_left inside, List.take_append_of_le_length inside]

private theorem shownBy_last :
    shownBy (calls ++ [(env, call)]) calls.length =
      shownAt (threshold (calls ++ [(env, call)])) call := by
  have whole : (calls ++ [(env, call)]).take (calls.length + 1) = calls ++ [(env, call)] :=
    List.take_of_length_le (by simp)
  simp [shownBy, whole]

private theorem shown_append :
    shown (calls ++ [(env, call)]) =
      shown calls ++ shownAt (threshold (calls ++ [(env, call)])) call := by
  have earlier : ∀ index ∈ List.range calls.length,
      shownBy (calls ++ [(env, call)]) index = shownBy calls index :=
    fun index member => shownBy_append calls env call (List.mem_range.mp member)
  rw [shown, List.length_append, List.length_singleton, List.range_succ, List.flatMap_append,
    List.flatMap_congr earlier, List.flatMap_singleton, shownBy_last, shown]

end Appended

/-!
## What a run writes
-/

/-- The state of the log after the calls of a run. -/
structure Reached (calls : LogRun) (state : LogState) : Prop where
  initialized : state.initialized = !calls.isEmpty
  minLevel : state.minLevel = threshold calls
  stderr : state.stderr = complaint calls ++ shown calls

private theorem reached_initial : Reached [] .initial := ⟨rfl, rfl, rfl⟩

private theorem logInit_initial (env : Option (List Byte)) :
    logInit env .initial = ⟨envLevel env, true, complaint [(env, .init)]⟩ := by
  cases env with
  | none => rfl
  | some env =>
      cases parsed : parseLevel env with
      | none => simp [logInit, LogState.initial, parsed, envLevel, complaint, LogCall.level?]
      | some level => simp [logInit, LogState.initial, parsed, envLevel, complaint, LogCall.level?]

/-- The first call reads the environment, unless it sets the level. -/
theorem Reached.first (env : Option (List Byte)) (call : LogCall) :
    Reached [(env, call)] (call.apply env .initial) := by
  have shows : shown [(env, call)] = shownAt (threshold [(env, call)]) call :=
    (shown_append [] env call).trans (List.nil_append _)
  cases call with
  | init =>
      rw [LogCall.apply, logInit_initial]
      refine ⟨rfl, (threshold_first env .init rfl).symm, ?_⟩
      rw [shows, shownAt, List.append_nil]
  | setLevel level =>
      refine ⟨rfl, (threshold_set [] env level).symm, ?_⟩
      rw [shows, shownAt, List.append_nil]
      cases env with
      | none => rfl
      | some env => rfl
  | log message =>
      have level := threshold_first env (.log message) rfl
      have same : complaint [(env, .log message)] = complaint [(env, .init)] := by
        cases env with
        | none => rfl
        | some env => rfl
      have unready : ¬ LogState.initial.initialized = true := Bool.false_ne_true
      rw [LogCall.apply, logLog, if_neg unready, logInit_initial]
      split
      · next below =>
          refine ⟨rfl, level.symm, ?_⟩
          rw [shows, level, shownAt, if_pos below, List.append_nil, same]
      · next above =>
          refine ⟨rfl, level.symm, ?_⟩
          rw [shows, level, shownAt, if_neg above, same]

theorem Reached.later {calls : LogRun} {state : LogState} (reached : Reached calls state)
    (started : calls ≠ []) (env : Option (List Byte)) (call : LogCall) :
    Reached (calls ++ [(env, call)]) (call.apply env state) := by
  have ready : state.initialized = true := by
    rw [reached.initialized]
    simpa using started
  have begun : (!List.isEmpty (calls ++ [(env, call)])) = true := by simp
  cases call with
  | init =>
      have same : LogCall.apply env .init state = state := by
        rw [LogCall.apply, logInit, if_pos ready]
      rw [same]
      refine ⟨ready.trans begun.symm, ?_, ?_⟩
      · rw [threshold_later calls env _ started rfl, reached.minLevel]
      · rw [complaint_later calls env _ started, shown_append, reached.stderr]
        simp [shownAt]
  | setLevel level =>
      refine ⟨begun.symm, (threshold_set calls env level).symm, ?_⟩
      rw [complaint_later calls env _ started, shown_append, shownAt, List.append_nil]
      exact reached.stderr
  | log message =>
      have level := threshold_later calls env (.log message) started rfl
      rw [LogCall.apply, logLog, if_pos ready]
      split
      · next below =>
          refine ⟨ready.trans begun.symm, level ▸ reached.minLevel, ?_⟩
          rw [complaint_later calls env _ started, shown_append, level, shownAt, ← reached.minLevel,
            if_pos below, List.append_nil, reached.stderr]
      · next above =>
          refine ⟨ready.trans begun.symm, level ▸ reached.minLevel, ?_⟩
          rw [complaint_later calls env _ started, shown_append, level, shownAt, ← reached.minLevel,
            if_neg above, reached.stderr, List.append_assoc]

private theorem reached_final (calls : LogRun) : Reached calls (final calls) := by
  induction calls using List.reverseRecOn with
  | nil => exact reached_initial
  | append_singleton calls call ih =>
      obtain ⟨env, call⟩ := call
      rw [final_append]
      by_cases started : calls = []
      · rw [started]
        exact Reached.first env call
      · exact ih.later started env call

/-- A log that is ready does not look at the environment. -/
theorem apply_ready {state : LogState} (ready : state.initialized = true)
    (env other : Option (List Byte)) (call : LogCall) :
    call.apply env state = call.apply other state := by
  cases call with
  | init => simp only [LogCall.apply, logInit, ready, if_true]
  | setLevel level => rfl
  | log message => simp only [LogCall.apply, logLog, ready, if_true]

private theorem shown_infix (calls : LogRun) {index : Nat} (inside : index < calls.length) :
    ∃ before after, shown calls = before ++ shownBy calls index ++ after := by
  obtain ⟨front, back, split⟩ := List.append_of_mem (List.mem_range.mpr inside)
  refine ⟨front.flatMap calls.shownBy, back.flatMap calls.shownBy, ?_⟩
  rw [shown, split, List.flatMap_append, List.flatMap_cons, List.append_assoc]

end LogRun

/-- Everything a program sees on standard error, for every sequence of calls and whatever
happens to the environment in between: first a complaint about an unknown
level, then in their order exactly the messages that are not below the level
that was set last, or else the one the environment had at the first call. An
error is always among them. The environment of a later call never matters, nor
does that of a first call which sets the level. -/
theorem logRun_exact (calls : LogRun) :
    (LogRun.final calls).stderr = LogRun.complaint calls ++ LogRun.shown calls ∧
    (∀ front env message back, calls = front ++ (env, LogCall.log message) :: back →
      message.level = LogLevel.error →
      ∃ before after, (LogRun.final calls).stderr = before ++ message.record ++ after) ∧
    ∀ front env call back, calls = front ++ (env, call) :: back →
      front ≠ [] ∨ call.level?.isSome = true → ∀ other,
        LogRun.final (front ++ (other, call) :: back) = LogRun.final calls := by
  have reached := LogRun.reached_final calls
  refine ⟨reached.stderr, ?_, ?_⟩
  · intro front env message back split severe
    have here : calls[front.length]? = some (env, LogCall.log message) := by simp [split]
    have inside : front.length < calls.length := by simp [split]
    obtain ⟨before, after, shape⟩ := LogRun.shown_infix calls inside
    have whole : LogRun.shownBy calls front.length = message.record := by
      rw [LogRun.shownBy, here]
      simp only [LogRun.shownAt, severe]
      rw [if_neg]
      cases LogRun.threshold (calls.take (front.length + 1)) with
      | _ => decide
    rw [whole] at shape
    refine ⟨LogRun.complaint calls ++ before, after, ?_⟩
    rw [reached.stderr, shape]
    simp only [List.append_assoc]
  · intro front env call back split unread other
    have same : call.apply other (LogRun.final front) = call.apply env (LogRun.final front) := by
      cases call with
      | setLevel level => rfl
      | init | log =>
          rcases unread with started | sets
          · refine LogRun.apply_ready ?_ _ _ _
            rw [(LogRun.reached_final front).initialized]
            simpa using started
          · cases sets
    rw [split, LogRun.final, LogRun.final, List.foldl_append, List.foldl_append, List.foldl_cons,
      List.foldl_cons]
    exact congrArg (fun state => back.foldl (fun state call => call.2.apply call.1 state) state) same

end ProcessBridge.Utilities
