import Ascent.Climb.Narration
import Ascent.Proofs.Report.Table

/-!
# What is told about a run

A run is told event by event, to the reporters first and then to the log.  The log has its
record of every event, whatever the reporters write.  A journal puts a record of its own before
each of these, and a table is written once, before the record of the end.

A journal can tell all events of a climb, since no step of it selects a neighbor that is not
there.
-/

namespace Ascent.Climb

open Report
open Report.Table (stepRows written)

variable (logger : Log.Logger Unit) (took : Log.Value)

/-- What the log has of an event. -/
def logged (event : Event) : List Line :=
  ((logger.emit? (record took event)).map fun (_, record) => Line.log record).toList

/-- What a journal has of an event. -/
def journaled (target : Log.Logger Unit) (event : Event) : List Line :=
  ((Journal.record event).toOption.bind fun record =>
    (target.emit? record).map fun (_, record) => Line.journal record).toList

theorem level_of_record {event : Event} {told : Log.Record}
    (recorded : Journal.record event = .ok told) : told.level = .info := by
  cases event with
  | step step =>
      rcases bind_eq_ok_iff.mp recorded with ⟨fields, _, made⟩
      exact Except.ok.inj made ▸ rfl
  | final final => exact Except.ok.inj recorded ▸ rfl

/-- A journal without fields of its own, to which nothing of level info is too detailed, has
exactly the records of the events that it can tell. -/
theorem journaled_eq {level : Log.Level} (admits : level.admits .info = true) (event : Event) :
    journaled ⟨level, [], some ()⟩ event =
      (Journal.record event).toOption.toList.map Line.journal := by
  rw [journaled]
  cases recorded : Journal.record event with
  | error fault => rfl
  | ok told =>
      have admitted : level.admits told.level = true := by
        rw [level_of_record recorded]
        exact admits
      have emitted : Log.Logger.emit? ⟨level, [], some ()⟩ told = some ((), told) := by
        rw [Log.Logger.emit?, if_pos admitted]
        rfl
      simp [Except.toOption, emitted]

/-! ## Reporters and their lines -/

theorem narrate_append (reporters : List Reporter) (events more : List Event) :
    narrate logger took reporters (events ++ more) =
      ((narrate logger took (narrate logger took reporters events).1 more).1,
        (narrate logger took reporters events).2 ++
          (narrate logger took (narrate logger took reporters events).1 more).2) := by
  induction events generalizing reporters with
  | nil => rfl
  | cons event rest ih => simp only [List.cons_append, narrate, ih, List.append_assoc]

theorem narrate_none (events : List Event) :
    narrate logger took [] events = ([], events.flatMap (logged logger took)) := by
  induction events with
  | nil => rfl
  | cons event rest ih =>
      simp only [narrate, Reporter.handleAll, ih, List.nil_append, List.flatMap_cons, logged]

/-- A journal takes every event, and writes nothing about one that it cannot tell. -/
theorem handleAll_journal (target : Log.Logger Unit) (event : Event) :
    ∃ fault, Reporter.handleAll [.journal target] event =
      ([.journal target], journaled target event, fault) := by
  rw [Reporter.handleAll, Reporter.handle, journaled]
  cases Journal.record event with
  | error fault => exact ⟨some fault, rfl⟩
  | ok record => exact ⟨none, by simp [Reporter.handleAll, Except.toOption]⟩

theorem narrate_journal (target : Log.Logger Unit) (events : List Event) :
    narrate logger took [.journal target] events =
      ([.journal target],
        events.flatMap fun event => journaled target event ++ logged logger took event) := by
  induction events with
  | nil => rfl
  | cons event rest ih =>
      rcases handleAll_journal target event with ⟨fault, handled⟩
      simp only [narrate, handled, ih, List.flatMap_cons, logged]

/-- A table keeps the rows of steps; only the log has something to say. -/
theorem narrate_table_steps (table : Table) (steps : List Step) :
    narrate logger took [.table table] (steps.map .step) =
      ([.table ⟨table.rows ++ steps.flatMap stepRows⟩],
        steps.flatMap fun step => logged logger took (.step step)) := by
  induction steps generalizing table with
  | nil => simp [narrate]
  | cons step rest ih =>
      simp [narrate, Reporter.handleAll, Reporter.handle, Table.handle, ih, logged]

/-- The end of a run writes the table, and the next run finds a new one. -/
theorem narrate_table_run (steps : List Step) (final : Final) :
    narrate logger took [.table .empty] (steps.map .step ++ [.final final]) =
      ([.table .empty],
        (steps.flatMap fun step => logged logger took (.step step)) ++
          .table (written Grid.render (steps.map .step ++ [.final final])) ::
            logged logger took (.final final)) := by
  have text := congrArg Prod.snd (Table.feed_run Grid.render steps final)
  rw [narrate_append, narrate_table_steps, written, text]
  simp [narrate, Reporter.handleAll, Reporter.handle, Table.handle, Table.runRows,
    Table.empty, logged]

/-! ## Climbs in a journal -/

variable {p : Problem} {width : Nat}

theorem exists_record_of_truthful {step : Step} (truthful : step.Truthful p width) :
    ∃ record, Journal.record (.step step) = .ok record := by
  simp only [Journal.record, Journal.stepRecord, Journal.selectedFields]
  rcases truthful.selected with none | ⟨k, neighbor, selected, found, _⟩
  · have terminal : step.terminal = true := by simp [Step.terminal, none]
    rw [if_pos terminal]
    exact ⟨_, rfl⟩
  · have moving : ¬ step.terminal = true := by simp [Step.terminal, selected]
    rw [if_neg moving, selected, Int.toNat_natCast, found]
    exact ⟨_, rfl⟩

/-- A journal has a record of every event of a climb. -/
theorem exists_record_of_solve {config : Config} {signal : Signal} {start : Solution} {run : Run}
    (searchable : p.Searchable) (valid : config.validate = .ok ())
    (sameWidth : start.length = p.weights.length)
    (solved : solve (some p) config signal (some start) = .ok run) :
    ∀ event ∈ run.events, ∃ record, Journal.record event = .ok record := by
  intro event member
  rcases List.mem_append.mp member with told | ended
  · rcases List.mem_map.mp told with ⟨step, stepped, rfl⟩
    exact exists_record_of_truthful
      (truthful_of_mem_steps searchable sameWidth valid solved stepped)
  · obtain rfl := List.mem_singleton.mp ended
    exact ⟨_, rfl⟩

end Ascent.Climb
