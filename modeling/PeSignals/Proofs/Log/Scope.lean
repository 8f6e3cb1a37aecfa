import Mathlib
import PeSignals.Log.Logger

/-!
# Records carry the innermost open operation

A program uses a logger in blocks, and each block is left at its end or by a failure. The logger has one place
for the open operation and puts back what was there when a block is left. So each record has the operation
that was opened last and not closed since, whatever happened in between, and nothing of any call but its own.
-/
namespace PeSignals.Log

/-! ## Programs and what happens in them -/

/-- A block in which a logger is used. -/
inductive Block
  | operation (name : String)
  | timed (label : String)

/-- A program that uses a logger, with its loops and choices written out as they came. -/
inductive Program
  | done
  | call (r : Request)
  | fail (f : Failure)
  | followed (first second : Program)
  | inside (b : Block) (body : Program)
  /-- A failure of the body is handled by the rest. -/
  | handled (body handler : Program)

/-- What happens in a run, with the records that are written then. -/
inductive Event
  | opened (b : Block)
  | called (r : Request) (written : List Record)
  | closed (b : Block) (failure? : Option Failure) (written : List Record)

/-- What a run leaves behind. -/
structure Outcome where
  logger : Logger
  events : List Event := []
  /-- The failure that the run ends with. -/
  failure? : Option Failure := none

def RequestFault.failure (fault : RequestFault) : Failure := ⟨"TypeError", fault.message⟩

/-- A logger in a block that is entered. -/
def Logger.opened (l : Logger) : Block → Logger
  | .operation name => l.enter name
  | .timed _ => l

/-- A logger when a block is left, and what it writes then. -/
def Logger.closed (l : Logger) : Block → Logger × List Record
  | .operation _ => (l.leave, [])
  | .timed label => (l, (l.timed label).toList)

namespace Outcome

def andThen (o rest : Outcome) : Outcome := ⟨rest.logger, o.events ++ rest.events, rest.failure?⟩

/-- The run of a block, from that of its body. It ends in the same way whether the body failed or not, and a
failure goes on behind it. -/
def inside (b : Block) (o : Outcome) : Outcome :=
  let (l, written) := o.logger.closed b
  ⟨l, .opened b :: (o.events ++ [.closed b o.failure? written]), o.failure?⟩

end Outcome

/-- Runs a program with a logger, while a failure may be at hand. -/
def Program.run (handling? : Option Failure) (l : Logger) : Program → Outcome
  | done => { logger := l }
  | call r =>
    match l.log r handling? with
    | .ok record? => { logger := l, events := [.called r record?.toList] }
    | .error fault => { logger := l, events := [.called r []], failure? := some fault.failure }
  | fail f => { logger := l, failure? := some f }
  | followed first second =>
    let o := first.run handling? l
    match o.failure? with
    | none => o.andThen (second.run handling? o.logger)
    | some _ => o
  | inside b body => (body.run handling? (l.opened b)).inside b
  | handled body handler =>
    let o := body.run handling? l
    match o.failure? with
    | none => o
    | some f => o.andThen (handler.run (some f) o.logger)

/-! ## The innermost open operation -/

/-- The last operation opened and not closed again in a history, the latest event first. Behind the history
stand `left` operations that are closed already. -/
def unclosed (left : Nat) : List Event → Option String
  | [] => none
  | .closed (.operation _) _ _ :: past => unclosed (left + 1) past
  | .opened (.operation name) :: past =>
    match left with
    | 0 => some name
    | left + 1 => unclosed left past
  | _ :: past => unclosed left past

/-- The innermost operation that is open after events. -/
def innermost (events : List Event) : Option String := unclosed 0 events.reverse

/-- Whether events close all operations that they open. -/
def IsNested (events : List Event) : Prop :=
  ∀ left past, unclosed left (events.reverse ++ past) = unclosed left past

theorem isNested_nil : IsNested [] := fun _ _ => rfl

theorem isNested_called (r : Request) (written : List Record) : IsNested [.called r written] :=
  fun _ _ => rfl

theorem IsNested.append {events more : List Event} (h : IsNested events) (hmore : IsNested more) :
    IsNested (events ++ more) := by
  intro left past
  rw [List.reverse_append, List.append_assoc, hmore, h]

theorem IsNested.block {events : List Event} (h : IsNested events) (b : Block)
    (failure? : Option Failure) (written : List Record) :
    IsNested (.opened b :: (events ++ [.closed b failure? written])) := by
  intro left past
  rw [List.reverse_cons, List.reverse_append, List.reverse_singleton, List.append_assoc,
    List.append_assoc]
  cases b with
  | operation name => exact h (left + 1) (.opened (.operation name) :: past)
  | timed label => exact h left (.opened (.timed label) :: past)

/-- Blocks that were opened and closed leave the innermost open operation as it was. -/
theorem IsNested.innermost_append {events : List Event} (h : IsNested events) (before : List Event) :
    innermost (before ++ events) = innermost before := by
  rw [innermost, List.reverse_append, h, innermost]

/-! ## Single records -/

/-- Whether a record has an operation, or none, also where it is written as JSON: there an empty name is left
out like none. -/
structure Record.IsTagged (record : Record) (operation? : Option String) : Prop where
  operation : record.entry.operation = operation?
  key : ∀ time, (record.toJson time).get? "operation" = (operation?.filter (· ≠ "")).map .string

/-- Whether a record is what a request asks for, with the fields of that request that do not steer the
writing. -/
structure Record.Answers (record : Record) (r : Request) : Prop where
  level : record.level = r.manner.level
  message : ∃ text, fill r.template r.values = some text ∧ record.entry.note.message = .text text
  fields : record.fields = r.fields.filter fun field =>
    field.1 ≠ "exc_info" ∧ field.1 ≠ "stack_info" ∧ field.1 ≠ "stacklevel"
  key : ∀ time, (record.toJson time).get? "extra" =
    if record.fields.isEmpty then none else some (.object record.fields)

/-- Whether a request leads to a record: it is not refused, and its values fit its template. -/
def Request.IsWritten (r : Request) : Prop :=
  r.repeated? = none ∧ r.depthFault? = none ∧ (fill r.template r.values).isSome

/-- A name that no other part of the JSON object has is looked up among the operation and the fields. -/
theorem get?_toJson (record : Record) (time : String) {name : String}
    (h : ∀ other ∈ ["level", "logger", "message", "tool_name", "exc_info"], (name == other) = false) :
    (record.toJson time).get? name = (record.operationField.lookup name).or
      ((if record.fields.isEmpty then [] else [("extra", Json.object record.fields)]).lookup name) := by
  simp only [List.forall_mem_cons, List.not_mem_nil, false_imp_iff, implies_true, and_true] at h
  obtain ⟨hlevel, hlogger, hmessage, htool, htrace⟩ := h
  have hfailure : record.failureField.lookup name = none := by
    unfold Record.failureField
    split
    · simp [List.lookup, htrace]
    · rfl
  rw [Record.toJson, Json.get?, Json.fields, List.lookup_append, List.lookup_append, List.lookup_append,
    hfailure, Option.or_none]
  simp [List.lookup, hlevel, hlogger, hmessage, htool]

/-- The operation stands beside a record unless it is empty. -/
theorem get?_operation_toJson (record : Record) (time : String) :
    (record.toJson time).get? "operation" =
      (record.entry.operation.filter (· ≠ "")).map .string := by
  have hfields : (if record.fields.isEmpty then []
      else [("extra", Json.object record.fields)]).lookup "operation" = none := by
    split <;> rfl
  rw [get?_toJson record time (by decide), hfields, Option.or_none, Record.operationField]
  split
  · next hnone => rw [hnone]; rfl
  · next hempty => rw [hempty]; rfl
  · next name hne hname =>
    rw [hname]
    simpa [List.lookup, Option.filter] using hne

theorem get?_extra_toJson (record : Record) (time : String) :
    (record.toJson time).get? "extra" =
      if record.fields.isEmpty then none else some (.object record.fields) := by
  have hoperation : record.operationField.lookup "extra" = none := by
    unfold Record.operationField
    split <;> rfl
  rw [get?_toJson record time (by decide), hoperation, Option.none_or]
  split <;> rfl

theorem isTagged_of_operation {record : Record} {operation? : Option String}
    (h : record.entry.operation = operation?) : record.IsTagged operation? where
  operation := h
  key := fun time => h ▸ get?_operation_toJson record time

/-- The steering fields are left out of a record; no other field is. -/
theorem Request.extra_eq (r : Request) : r.extra = r.fields.filter fun field =>
    field.1 ≠ "exc_info" ∧ field.1 ≠ "stack_info" ∧ field.1 ≠ "stacklevel" := by
  rw [extra, steering]
  refine List.filter_congr fun field _ => ?_
  simp [Bool.not_or]

namespace Logger

variable {l : Logger}

theorem keeps_of_debug (h : l.threshold ≤ Level.debug.weight) (level : Level) : l.keeps level = true := by
  rw [keeps, decide_eq_true_iff]
  exact h.trans (by cases level <;> decide)

theorem note_of_debug (h : l.threshold ≤ Level.debug.weight) (n : Note) :
    l.note n = some { tool := l.tool, entry := ⟨l.operation?, n⟩ } := by
  rw [note, accept, if_pos (keeps_of_debug h n.level)]

/-- What comes of a request: a record of its own in the open operation, or none if it is refused or its values
do not fit. -/
theorem log_cases (h : l.threshold ≤ Level.debug.weight) (r : Request) (handling? : Option Failure) :
    (∃ record, l.log r handling? = .ok (some record) ∧ r.IsWritten ∧
      record.IsTagged l.operation? ∧ record.Answers r) ∨
    (l.log r handling? = .ok none ∧ ¬ r.IsWritten) ∨
    ∃ fault, l.log r handling? = .error fault ∧ ¬ r.IsWritten := by
  rw [log]
  cases hrepeated : r.repeated? with
  | some name => exact .inr (.inr ⟨_, rfl, fun hwritten => by simpa [hrepeated] using hwritten.1⟩)
  | none =>
    cases hdepth : r.depthFault? with
    | some kindName =>
      have hrefused : ¬ r.IsWritten := fun hwritten => by simpa [hdepth] using hwritten.2.1
      simp only [keeps_of_debug h]
      exact .inr (.inr ⟨_, rfl, hrefused⟩)
    | none =>
      simp only [record?, note_of_debug h]
      cases htext : fill r.template r.values with
      | none => exact .inr (.inl ⟨rfl, fun hwritten => by simpa [htext] using hwritten.2.2⟩)
      | some text =>
        refine .inl ⟨_, rfl, ⟨hrepeated, hdepth, by rw [htext]; rfl⟩, isTagged_of_operation rfl, ?_⟩
        exact ⟨rfl, ⟨text, htext, rfl⟩, r.extra_eq, get?_extra_toJson _⟩

theorem timed_of_debug (h : l.threshold ≤ Level.debug.weight) (label : String) :
    l.timed label = some { tool := l.tool, entry := ⟨l.operation?, .debug, .took label⟩ } :=
  note_of_debug h _

end Logger

/-! ## Runs -/

/-- Whether what happens behind other events is recorded as it should be: a call that leads to a record writes
one, which answers it; a timed block writes one note for diagnosis when it is left; and each record has the
innermost operation that is open at the time. -/
def Event.IsRecorded (before : List Event) : Event → Prop
  | .opened _ => True
  | .called r written =>
    (r.IsWritten → ∃ record, written = [record] ∧ record.IsTagged (innermost before) ∧ record.Answers r) ∧
      (¬ r.IsWritten → written = [])
  | .closed (.operation _) _ written => written = []
  | .closed (.timed label) _ written =>
    ∃ record, written = [record] ∧ record.IsTagged (innermost before) ∧ record.level = .debug ∧
      record.entry.note.message = .took label ∧ record.fields = []

def AllRecorded (before : List Event) : List Event → Prop
  | [] => True
  | e :: rest => e.IsRecorded before ∧ AllRecorded (before ++ [e]) rest

theorem allRecorded_append {before events more : List Event} :
    AllRecorded before (events ++ more) ↔
      AllRecorded before events ∧ AllRecorded (before ++ events) more := by
  induction events generalizing before with
  | nil => simp [AllRecorded]
  | cons e rest ih => simp [AllRecorded, ih, and_assoc]

theorem AllRecorded.isRecorded {before passed coming : List Event} {e : Event}
    (h : AllRecorded before (passed ++ e :: coming)) : e.IsRecorded (before ++ passed) :=
  (allRecorded_append.mp h).2.1

/-- Whether a run leaves a logger as it was, leaves all blocks that it enters, and records what happens in it,
wherever the logger had its open operation from. -/
structure IsScoped (l : Logger) (o : Outcome) : Prop where
  restored : o.logger = l
  nested : IsNested o.events
  recorded : ∀ before, innermost before = l.operation? → AllRecorded before o.events

theorem isScoped_quiet (l : Logger) (failure? : Option Failure) :
    IsScoped l { logger := l, failure? } where
  restored := rfl
  nested := isNested_nil
  recorded := fun _ _ => trivial

theorem isScoped_called {l : Logger} (r : Request) (written : List Record) (failure? : Option Failure)
    (h : ∀ before, innermost before = l.operation? → (Event.called r written).IsRecorded before) :
    IsScoped l { logger := l, events := [.called r written], failure? } where
  restored := rfl
  nested := isNested_called r written
  recorded := fun before hbefore => ⟨h before hbefore, trivial⟩

/-- What each of two steps keeps, both keep one after the other. -/
theorem IsScoped.andThen {l : Logger} {o rest : Outcome} (h : IsScoped l o)
    (hrest : IsScoped o.logger rest) : IsScoped l (o.andThen rest) where
  restored := hrest.restored.trans h.restored
  nested := h.nested.append hrest.nested
  recorded := by
    intro before hbefore
    refine allRecorded_append.mpr ⟨h.recorded before hbefore, hrest.recorded _ ?_⟩
    rw [h.nested.innermost_append, hbefore, h.restored]

theorem innermost_opened {l : Logger} {before : List Event} (h : innermost before = l.operation?)
    (b : Block) : innermost (before ++ [.opened b]) = (l.opened b).operation? := by
  rw [innermost, List.reverse_append, List.reverse_singleton]
  cases b with
  | operation name => rfl
  | timed label => exact h

/-- Closing a block gives back the logger that opened it. -/
theorem closed_opened (l : Logger) (b : Block) : ((l.opened b).closed b).1 = l := by
  cases b <;> rfl

/-- Whatever the body does, a block is left with the operation that it was entered with, and the note of a timed
block has that operation. -/
theorem IsScoped.inside {l : Logger} {b : Block} {o : Outcome} (h : IsScoped (l.opened b) o)
    (hdebug : l.threshold ≤ Level.debug.weight) : IsScoped l (o.inside b) := by
  obtain ⟨logger, events, failure?⟩ := o
  obtain ⟨rfl, hnested, hrecorded⟩ := h
  refine ⟨closed_opened l b, hnested.block b failure? _, fun before hbefore => ?_⟩
  have hopened := innermost_opened hbefore b
  refine ⟨trivial, allRecorded_append.mpr ⟨hrecorded _ hopened, ?_, trivial⟩⟩
  cases b with
  | operation name => rfl
  | timed label =>
    have htag : innermost (before ++ [.opened (.timed label)] ++ events) = l.operation? :=
      (hnested.innermost_append _).trans hopened
    refine ⟨_, congrArg Option.toList (Logger.timed_of_debug hdebug label), ?_, rfl, rfl, rfl⟩
    exact isTagged_of_operation htag.symm

/-- Every program does. -/
theorem isScoped_run (p : Program) (handling? : Option Failure) {l : Logger}
    (h : l.threshold ≤ Level.debug.weight) : IsScoped l (p.run handling? l) := by
  induction p generalizing handling? l with
  | done => exact isScoped_quiet l none
  | call r =>
    rw [Program.run]
    rcases Logger.log_cases h r handling? with
      ⟨record, hlog, hwritten, htag, hanswers⟩ | ⟨hlog, hnot⟩ | ⟨fault, hlog, hnot⟩
    · rw [hlog]
      refine isScoped_called r [record] none fun before hbefore => ?_
      exact ⟨fun _ => ⟨record, rfl, hbefore ▸ htag, hanswers⟩, fun hnot => absurd hwritten hnot⟩
    · rw [hlog]
      exact isScoped_called r [] none fun _ _ => ⟨fun hwritten => absurd hwritten hnot, fun _ => rfl⟩
    · rw [hlog]
      exact isScoped_called r [] (some fault.failure) fun _ _ =>
        ⟨fun hwritten => absurd hwritten hnot, fun _ => rfl⟩
  | fail f => exact isScoped_quiet l (some f)
  | followed first second ihFirst ihSecond =>
    have hfirst := ihFirst handling? h
    have hsecond := ihSecond handling? (l := (first.run handling? l).logger) (by rwa [hfirst.restored])
    rw [Program.run]
    cases (first.run handling? l).failure? with
    | none => exact hfirst.andThen hsecond
    | some f => exact hfirst
  | inside b body ih =>
    have hopened : (l.opened b).threshold ≤ Level.debug.weight := by cases b <;> exact h
    exact (ih handling? hopened).inside h
  | handled body handler ihBody ihHandler =>
    have hbody := ihBody handling? h
    have hhandler (f : Failure) :=
      ihHandler (some f) (l := (body.run handling? l).logger) (by rwa [hbody.restored])
    rw [Program.run]
    cases (body.run handling? l).failure? with
    | none => exact hbody
    | some f => exact hbody.andThen (hhandler f)

theorem exists_record_timed (label : String) (body : Program) (handling? : Option Failure) {l : Logger}
    (h : l.threshold ≤ Level.debug.weight) :
    ∃ record, record.level = .debug ∧ record.IsTagged l.operation? ∧
      ((Program.inside (.timed label) body).run handling? l).events =
        Event.opened (.timed label) :: ((body.run handling? l).events ++
          [Event.closed (.timed label) (body.run handling? l).failure? [record]]) := by
  let record : Record := { tool := l.tool, entry := ⟨l.operation?, .debug, .took label⟩ }
  have htag : record.IsTagged l.operation? := isTagged_of_operation rfl
  refine ⟨record, rfl, htag, ?_⟩
  have hwritten : ((body.run handling? l).logger.closed (.timed label)).2 = [record] := by
    rw [(isScoped_run body handling? h).restored]
    exact congrArg Option.toList (Logger.timed_of_debug h label)
  rw [← hwritten]
  rfl

/-! ## Loggers for diagnosis -/

/-- Whether a logger that has no operation open yet keeps to the blocks of the programs that use it. -/
structure Logger.KeepsScopes (l : Logger) : Prop where
  recorded : ∀ (p : Program) (handling? : Option Failure) (before : List Event) (e : Event)
    (after : List Event), (p.run handling? l).events = before ++ e :: after → e.IsRecorded before
  left : ∀ (p : Program) (handling? : Option Failure), innermost (p.run handling? l).events = none
  /-- However a block is left, and whatever was open around it, the logger is as it was. -/
  restored : ∀ (b : Block) (body : Program) (handling? : Option Failure) (operation? : Option String)
    (around : List (Option String)),
    ((Program.inside b body).run handling? { l with operation?, around }).logger =
      { l with operation?, around }
  timed : ∀ (label : String) (body : Program) (handling? : Option Failure) (operation? : Option String)
    (around : List (Option String)), ∃ record, record.level = .debug ∧ record.IsTagged operation? ∧
      ((Program.inside (.timed label) body).run handling? { l with operation?, around }).events =
        Event.opened (.timed label) :: ((body.run handling? { l with operation?, around }).events ++
          [Event.closed (.timed label) (body.run handling? { l with operation?, around }).failure?
            [record]])

theorem Hierarchy.threshold_set (h : Hierarchy) (name : String) (weight : Nat) (hweight : weight ≠ 0) :
    (h.set name weight).threshold name = weight := by
  have hown : (h.set name weight).own? name = some weight := by
    simp [own?, set, Option.filter, hweight]
  simp [threshold, hown]

theorem keepsScopes_of_debug {l : Logger} (h : l.threshold ≤ Level.debug.weight)
    (hidle : l.operation? = none) : l.KeepsScopes where
  recorded := by
    intro p handling? before e after hsplit
    have hrecorded := (isScoped_run p handling? h).recorded [] hidle.symm
    rw [hsplit] at hrecorded
    exact hrecorded.isRecorded
  left := fun p handling? => (isScoped_run p handling? h).nested.innermost_append []
  restored := fun b body handling? operation? around =>
    (isScoped_run (.inside b body) handling? (l := { l with operation?, around }) h).restored
  timed := fun label body handling? operation? around =>
    exists_record_timed label body handling? (l := { l with operation?, around }) h

/-- A logger that is made with the level of diagnosis keeps to the blocks. -/
theorem keepsScopes_start (h : Hierarchy) (tool : String) {level : String}
    (hlevel : weightOf level = .ok Level.debug.weight) :
    ∃ h' l, Logger.start h tool level = .ok (h', l) ∧ l.KeepsScopes := by
  have hthreshold := h.threshold_set (loggerName tool) Level.debug.weight (by decide)
  refine ⟨h.set (loggerName tool) Level.debug.weight, { tool, threshold := Level.debug.weight }, ?_,
    keepsScopes_of_debug (le_refl _) rfl⟩
  simp only [Logger.start, hlevel, bind, Except.bind, hthreshold]
  rfl

/-- The level in small letters. -/
theorem keepsScopes_start_debug :
    weightOf "debug" = .ok Level.debug.weight ∧
      ∃ h' l, Logger.start {} "engine" "debug" = .ok (h', l) ∧ l.KeepsScopes :=
  ⟨by decide, keepsScopes_start {} "engine" (by decide)⟩

end PeSignals.Log
