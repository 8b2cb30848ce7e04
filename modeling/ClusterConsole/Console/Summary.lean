import ClusterConsole.Console.Message
import ClusterConsole.Console.Table
import ClusterConsole.Operation.Secret
import ClusterConsole.Outcome
import ClusterConsole.Roster

/-!
# Summaries

At its end an operation is summed up: for a reader with tables and a closing
line, and for other programs with a single value that has everything in it.
-/

namespace ClusterConsole

namespace ImageReport

/-- A report as a value. -/
def json (report : ImageReport) : Json.Value :=
  .list (report.results.map fun result =>
    .object
      [("service", .text result.service), ("image", .text result.image),
        ("result", .text result.outcome.text),
        ("ok", .boolean result.isSuccess)])

/-- A report as a table. -/
def table (report : ImageReport) : Table where
  titles := ["Service", "Image", "Result"]
  rows := report.results.map fun result =>
    [result.service, result.image, result.outcome.text]

def closing (report : ImageReport) : String :=
  toString report.successes ++ " of " ++ toString report.size ++
    " images built and loaded"

def summary (isJson : Bool) (command : String) (report : ImageReport) :
    List Message :=
  if isJson then
    [.result (.object
      [("command", .text command),
        ("status", .text (if report.isClean then "ok" else "degraded")),
        ("builds", report.json)])]
  else if report.isEmpty then []
  else
    [.heading "Images", .content report.table.text,
      if report.isClean then .success report.closing
      else .warning report.closing]

end ImageReport

namespace Outcome

def word (outcome : Outcome) : String :=
  if outcome.isDeclined then
    "declined"
  else if outcome.isClean then "ok" else "degraded"

def closing (outcome : Outcome) (done : String) : Message :=
  if outcome.isDeclined then .note "Cancelled, nothing was changed."
  else if outcome.isClean then .success done
  else
    let count := outcome.warnings.length
    .warning (done ++ " with " ++ toString count ++ if count = 1 then
      " warning" else " warnings")

/-- The summary of an operation.  Its warnings were told when they came up, so
for a reader they are only counted. -/
def summary (isJson : Bool) (command done : String) (outcome : Outcome) :
    List Message :=
  if isJson then
    [.result (.object
      [("command", .text command), ("status", .text outcome.word),
        ("warnings",
          .list (outcome.warnings.map fun warning => .text warning.text)),
        ("builds", outcome.images.json)])]
  else
    (if outcome.images.isEmpty then
      [] else [.content outcome.images.table.text]) ++
      [outcome.closing done]

end Outcome

namespace Roster

/-- A roster as a table. -/
def table (roster : Roster) : Table where
  titles := ["Service", "Alias", "Context"]
  rows := roster.services.map fun service =>
    [service.name, service.alias?.getD "", service.directory.text]

def summary (isJson : Bool) (roster : Roster) : List Message :=
  if isJson then
    [.result (.object
      [("command", .text "services"),
        ("services", .list (roster.services.map fun service =>
          .object
            [("name", .text service.name), ("alias", .ofOption service.alias?),
              ("context", .text service.directory.text)]))])]
  else [.heading "Services", .content roster.table.text]

end Roster

/-- Where a secret was written to. -/
def WrittenSecret.summary (isJson : Bool) (written : WrittenSecret) :
    List Message :=
  if isJson then
    [.result (.object
      [("command", .text "secrets"), ("path", .text written.path.text),
        ("env_source_found", .boolean written.hasSource)])]
  else [.success ("Secrets written to " ++ written.path.text)]

end ClusterConsole
