import Ascent.Log.Logger
import Ascent.Report.Grid
import Ascent.Report.Journal
import Ascent.Report.Table

/-!
# Reports

A reporter takes the events of runs, one after the other, and says what is to
be written for each of them.  Several reporters take every event in their
order; when one of them cannot tell an event, those behind it do not see it.
-/

namespace Ascent

open Climb (Event Final Step)

/-- The events taken so far. -/
structure Recorder where
  steps : List Step
  finals : List Final
deriving DecidableEq, Repr

namespace Recorder

/-- A recorder that has not seen an event. -/
def empty : Recorder :=
  ⟨[], []⟩

/-- Keep an event. -/
def handle (recorder : Recorder) : Event → Recorder
  | .step step => { recorder with steps := recorder.steps ++ [step] }
  | .final final => { recorder with finals := recorder.finals ++ [final] }

end Recorder

/-- What is written for an event. -/
inductive Line where
  /-- A table, as a whole. -/
  | table (text : String)
  /-- A record of a journal. -/
  | journal (record : Log.Record)
  /-- A record of the program's own log. -/
  | log (record : Log.Record)
deriving DecidableEq, Repr

/-- A receiver of events. -/
inductive Reporter where
  | table (table : Report.Table)
  | journal (logger : Log.Logger Unit)
  | recorder (recorder : Recorder)
deriving DecidableEq, Repr

namespace Reporter

/-- Take an event: the reporter after it, and what is written. -/
def handle (reporter : Reporter) (event : Event) : Except Fault (Reporter × List Line) :=
  match reporter with
  | .table collected =>
      let (collected, text) := collected.handle Report.Grid.render event
      .ok (.table collected, if text.isEmpty then [] else [.table text])
  | .journal logger => do
      let record ← Report.Journal.record event
      let written := (logger.emit? record).map fun (_, record) => .journal record
      return (.journal logger, written.toList)
  | .recorder kept => .ok (.recorder (kept.handle event), [])

/-- Let several reporters take an event, up to the first one that cannot. -/
def handleAll : List Reporter → Event → List Reporter × List Line × Option Fault
  | [], _ => ([], [], none)
  | reporter :: rest, event =>
      match reporter.handle event with
      | .error fault => (reporter :: rest, [], some fault)
      | .ok (reporter, lines) =>
          let (rest, more, fault) := handleAll rest event
          (reporter :: rest, lines ++ more, fault)

end Reporter

end Ascent
