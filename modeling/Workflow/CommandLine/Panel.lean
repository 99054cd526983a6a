import Workflow.Error

/-!
# Failures as they are shown

The text and the title of the panel in which the command line shows a failure.
-/

namespace Workflow

namespace CommandLine

/-- A text, unless it is empty. -/
def present? (o : Option String) : Option String :=
  o.bind fun s => if s.isEmpty then none else some s

/-- A text of a panel; other values cannot be shown in one. -/
def shownText (v : Value) : Outcome String :=
  match v.asText? with
  | some s => .ok s
  | none => .error (.badArgument "Only str or Text can be appended to Text")

/-- A line with a label, unless its value is empty. -/
def labelled (label : String) (v : Value) : Outcome (List String) :=
  if v.truthy then do .ok [label ++ (<- shownText v)] else .ok []

/-- The message, then where the error arose, then advice. -/
def errorText (e : Error) : Outcome String := do
  let message <- shownText e.content
  let place := (<- labelled "📍 Step: " e.stepId) ++ (<- labelled "🔖 Execution: " e.executionId)
  let placeText := if place.isEmpty then "" else "\n\n" ++ "\n".intercalate place
  let advice := (<- labelled "💡 Suggestion: " e.suggestion).map ("\n\n" ++ ·)
  .ok (message ++ placeText ++ "".intercalate advice)

/-- Control characters that are not shown: bell, backspace, and those that move the cursor. -/
def isSilent (c : Char) : Bool :=
  [7, 8, 11, 12, 13].contains c.toNat

/-- A text without the characters that are not shown. -/
def displayed (s : String) : String :=
  String.ofList (s.toList.filter fun c => !isSilent c)

/-- The text of the panel of a failure. -/
def panelText : Raised -> Outcome String
  | .error e => (errorText e).map displayed
  | r => .ok (displayed r.display)

/-- The title of the panel of a failure, with its markup. -/
def panelTitle (r : Raised) : String :=
  s!"[bold red]❌ {r.name}[/bold red]"

end CommandLine

end Workflow
