import Stepwise.Edit.Basic
import Stepwise.Instrument.Snippet
import Stepwise.Text.Offset

/-!
# Applying edits

The edits of a set are applied (`EditSet.splice?`; `SourceModifications`, `modify_source`) from the
highest offset to the lowest, so that no range is moved by an edit applied before it.  The texts put
in at one offset stand with a blank between them.  A range that is reversed, leaves the text or cuts
a character cannot be replaced.
-/

namespace Stepwise

/-- The text that an edit puts in. -/
def EditContent.text : EditContent → Text
  | .plain text => text
  | .step line => Snippet.step line
  | .tracker name => Snippet.tracker name

namespace EditSite

/-- Where the replaced range ends. -/
def stop (s : EditSite) : Nat := ((s.edits.map Edit.stop).max?).getD s.offset

/-- The text put in at the offset. -/
def text (s : EditSite) : Text := Text.join " " (s.edits.map fun e => e.content.text)

/-- Replaces the range of the offset. -/
def splice? (s : EditSite) (source : Text) : Option Text :=
  if s.offset ≤ s.stop then
    (Text.cutAt? s.offset source).bind fun (head, rest) =>
      (Text.cutAt? (s.stop - s.offset) rest).map fun (_, tail) => head ++ s.text ++ tail
  else none

end EditSite

/-- The source with all edits applied. -/
def EditSet.splice? (s : EditSet) (source : Text) : Option Text :=
  s.sites.reverse.foldlM (fun source site => site.splice? source) source

end Stepwise
