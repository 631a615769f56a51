import Stepwise.Analysis.Scan
import Stepwise.Edit.Splice
import Stepwise.Instrument.Collect

/-!
# Instrumented programs

Instrumenting a source adds to it what its analysis asks for, and behind it the printers of its
aggregates.

Main definitions: `Instrumented.ofSource` (`instrument`), and `Instrumented.textOrSource`
(`instrument_or_passthrough`), which gives the source itself if it cannot be instrumented.
-/

namespace Stepwise

/-- Why a source cannot be instrumented. -/
inductive InstrumentError where
  /-- Two edits clash. -/
  | fault (f : Fault)
  /-- A place of the analysis is none of the source. -/
  | outOfSource
  deriving DecidableEq, Repr

/-- The edits of an analysis as a set. -/
def Analysis.editSet (a : Analysis) : Except InstrumentError EditSet :=
  match a.edits? with
  | none => .error .outOfSource
  | some edits => (EditSet.addAll {} edits).mapError .fault

/-- A source with the edits of an analysis applied. -/
def Analysis.edit (a : Analysis) (source : Text) : Except InstrumentError Text := do
  match (← a.editSet).splice? source with
  | some text => return text
  | none => throw .outOfSource

/-- An instrumented program. -/
structure Instrumented where
  /-- The text to compile. -/
  source : Text
  /-- What was found in the program. -/
  analysis : Analysis
  deriving DecidableEq, Repr

namespace Instrumented

/-- The lines on which the program can stop. -/
def breakableLines (i : Instrumented) : LineSet := i.analysis.breakableLines

/-- Instruments a source whose tree is given. -/
def ofSource (source : Text) (root : Syntax.Node) : Except InstrumentError Instrumented := do
  let analysis := Analysis.ofTree source root
  let text ← analysis.edit source
  return { source := text ++ analysis.aggregates.flatMap Snippet.printer, analysis }

/-- The text to compile for a source: the source as it is if it cannot be instrumented. -/
def textOrSource (source : Text) (root : Syntax.Node) : Text :=
  match ofSource source root with
  | .ok i => i.source
  | .error _ => source

end Instrumented

end Stepwise
