import ClusterConsole.Console.Paint
import ClusterConsole.Failure
import ClusterConsole.Json.Value
import ClusterConsole.Procedure.Request
import ClusterConsole.Text.Blank
import ClusterConsole.Text.Line

/-!
# Messages

The console speaks in messages.  How a message looks depends on the settings:
for other programs each one is a line of JSON, and for a reader it is a line of
text that may be painted, or left out when the reader asked for quiet.
-/

namespace ClusterConsole

/-- How the console speaks. -/
structure Settings where
  /-- To other programs. -/
  isJson : Bool
  /-- Without the messages that a reader can do without. -/
  isQuiet : Bool
  isColored : Bool
deriving DecidableEq, Repr

namespace Settings

/-- To a reader, in full and without color. -/
def plain : Settings := ⟨false, false, false⟩

end Settings

/-- What the console has to tell. -/
inductive Message where
  | header (version : String)
  | success (text : String)
  | warning (text : String)
  | error (text : String)
  | heading (title : String)
  | note (text : String)
  | hint (text : String)
  /-- A text of any number of lines. -/
  | content (text : String)
  | progress (verb target : String) (isDone : Bool)
  /-- How a search went that a spinner was shown for. -/
  | searched (isFound : Bool) (text : String)
  /-- A value for other programs. -/
  | result (value : Json.Value)
  | clear
  /-- A failure that ends the program. -/
  | fatal (failure : Failure)

/-- One piece of what is written: a line, or the command that clears the
screen. -/
structure Emission where
  channel : Channel
  text : String
deriving DecidableEq, Repr

namespace Emission

def line (text : String) : Emission := ⟨.output, text ++ "\n"⟩

def errorLine (text : String) : Emission := ⟨.errors, text ++ "\n"⟩

def clear : Emission := ⟨.output, "\x1b[2J\x1b[1;1H"⟩

end Emission

namespace Message

/-- The value that a message is for other programs. -/
def envelope (kind : String) (payload : List (String × Json.Value)) :
    Json.Value :=
  .object [("type", .text kind), ("payload", .object payload)]

/-- What is written of a failure that ends the program.  Blanks at the end of
its message are left out. -/
def fatalText (failure : Failure) : String :=
  let message :=
    String.ofList (failure.message.toList.reverse.dropWhile (· = ' ')).reverse
  let help :=
    match failure.help? with
    | some help => "  help: " ++ help ++ "\n"
    | none => ""
  "kindops::fatal\n\n  × " ++ message ++ "\n" ++ help

def jsonEmissions : Message → List Emission
  | .header version =>
    [speak "header" [("app", .text "kindops"), ("version", .text version)]]
  | .success text => [speak "success" [("message", .text text)]]
  | .warning text => [speak "warning" [("message", .text text)]]
  | .error text =>
    [.errorLine (envelope "error" [("message", .text text)]).render]
  | .heading title => [speak "section" [("title", .text title)]]
  | .note text => [speak "note" [("message", .text text)]]
  | .hint text => [speak "hint" [("message", .text text)]]
  | .content text => [speak "lines" [("content", .text text)]]
  | .progress verb target isDone =>
    [speak "action"
      [("verb", .text verb), ("target", .text target),
        ("status", .text (if isDone then "done" else "in_progress"))]]
  | .searched isFound text =>
    [speak (if isFound then "spinner_success" else "spinner_fail")
        [("message", .text text)]]
  | .result value => [.line value.render]
  | .clear => []
  | .fatal failure => [.errorLine (fatalText failure)]
where
  /-- A line of JSON. -/
  speak (kind : String) (payload : List (String × Json.Value)) : Emission :=
    .line (envelope kind payload).render

def textEmissions (isColored : Bool) : Message → List Emission
  | .header version =>
    [.line (paint .bold "kindops" ++ " " ++ paint .dim version), .line ""]
  | .success text => [.line ("  " ++ paint .green "✓" ++ " " ++ text)]
  | .warning text => [.line ("  " ++ paint .yellow "⚠" ++ " " ++ text)]
  | .error text => [.errorLine ("  " ++ paint .red "×" ++ " " ++ text)]
  | .heading title => [.line "", .line (paint .bold title)]
  | .note text => [.line ("  " ++ paint .dim text)]
  | .hint text =>
    [.errorLine ("  " ++ paint .dimCyan "hint" ++ ": " ++ paint .dim text)]
  | .content text => (Text.lines text).map fun line => .line ("  " ++ line)
  | .progress verb target false =>
    [.line ("  " ++ paint .boldCyan verb ++ " " ++ target ++ "...")]
  | .progress verb target true =>
    [.line ("  " ++ paint .green "✓" ++ " " ++ paint .boldGreen verb ++ " " ++
        target)]
  | .searched _ _ => []
  | .result value => [.line value.render]
  | .clear => [.clear]
  | .fatal failure => [.errorLine (fatalText failure)]
where
  /-- A text under paint. -/
  paint (paint : Paint) (text : String) : String := paint.on isColored text

/-- Whether a reader can do without a message. -/
def isDispensable : Message → Bool
  | .header _ => true
  | .success _ => true
  | .heading _ => true
  | .note _ => true
  | .content _ => true
  | .progress _ _ _ => true
  | _ => false

def emissions (settings : Settings) (message : Message) : List Emission :=
  if settings.isJson then message.jsonEmissions
  else if settings.isQuiet && message.isDispensable then []
  else message.textEmissions settings.isColored

def ofEvent : Event → Message
  | .started action target => .progress action.verb target false
  | .finished action target => .progress action.done target true
  | .notice text => .note text
  | .degraded found => .warning found.text

/-- The messages about a failure: its text, the errors of the command behind it,
and what to do about it.  One that ends the program has a form of its own. -/
def ofFailure (failure : Failure) : List Message :=
  if failure.isFatal then [.fatal failure]
  else
    .error failure.message ::
      (errorLines failure).map .error ++
      failure.help?.toList.map .hint
where
  /-- The lines that the command behind a failure left, without the blank
  ones. -/
  errorLines : Failure → List String
    | .commandFailed _ _ (some errors) =>
      ((Text.lines errors).filter fun line => !Text.isAllBlank line).map
        Text.trim
    | _ => []

end Message

/-- A dim text, unless it is for other programs. -/
def Settings.muted (settings : Settings) (text : String) : String :=
  Paint.dim.on (!settings.isJson && settings.isColored) text

/-- All that the console asks of the way it speaks. -/
structure Voice where
  /-- Other programs are told summaries of a form of their own. -/
  isJson : Bool
  /-- What becomes of a dim text. -/
  mute : String → String
  /-- What is written for a message. -/
  speak : Message → List Emission

def Settings.voice (settings : Settings) : Voice :=
  ⟨settings.isJson, settings.muted, Message.emissions settings⟩

end ClusterConsole
