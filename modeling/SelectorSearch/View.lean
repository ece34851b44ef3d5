import SelectorSearch.ResultText

/-!
# Result Views

What can be done to the view that shows the results of a search. A view is known by what is done
to it, in order.
-/

namespace SelectorSearch

/-- One thing done to a result view. -/
inductive ViewEvent where
  | name (title : String)
  /-- A scratch view never asks to be saved. -/
  | scratch (on : Bool)
  | syntaxFile (path : String)
  | setting (key value : String)
  /-- Text is added at the end. -/
  | append (text : String)
  | setStatus (key value : String)
  | eraseStatus (key : String)
  deriving DecidableEq, Repr

/-- The text that an event adds to the results, which is empty for all but one kind of event. -/
def ViewEvent.body : ViewEvent → String
  | .append text => text
  | _ => ""

/-- How a view is set up for the results of a search for a `selector`. -/
def openingEvents (selector : String) : List ViewEvent :=
  [.name (viewTitle selector), .scratch true, .syntaxFile resultSyntax,
    .setting "result_file_regex" resultFilePattern,
    .setting "result_line_regex" resultLinePattern]

/-- What a rendered message does to the view: its status first, then its text. -/
def Rendered.events (r : Rendered) : List ViewEvent :=
  (r.status.map (.setStatus statusKey)).toList ++ (r.body.map .append).toList

/-- What a message does to the view, by its rendering. -/
def Message.events (m : Message) : List ViewEvent :=
  m.render.events

end SelectorSearch
