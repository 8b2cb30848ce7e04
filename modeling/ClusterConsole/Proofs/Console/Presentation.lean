import Mathlib.Data.List.Flatten
import ClusterConsole.Proofs.Console.Speech

/-!
# Speaking changes nothing

A command does the same however the console speaks: the same commands run, the
same questions are asked, the same events are announced, and the files and the
exit code come out the same.  To readers one list of messages is told.  A quiet
console leaves some lines of it out, but no warning and nothing among the
errors.
-/

namespace ClusterConsole

/-! ## What a run writes -/

def Exchange.emission? : Exchange → Option Emission
  | ⟨.write channel text, _⟩ => some ⟨channel, text⟩
  | _ => none

theorem Exchange.emission?_eq_none {exchange : Exchange}
    (isAct : exchange.request.isWrite = false) : exchange.emission? = none := by
  obtain ⟨request, reply⟩ := exchange
  cases request with
  | write => cases isAct
  | _ => rfl

@[simp] theorem Emission.isWrite_exchange (emission : Emission) :
    emission.exchange.request.isWrite = true := rfl

@[simp] theorem Emission.emission?_exchange (emission : Emission) :
    emission.exchange.emission? = some emission := rfl

def writtenIn (channel : Channel) (trace : List Exchange) : List Emission :=
  (trace.filterMap Exchange.emission?).filter fun emission =>
    emission.channel = channel

namespace Run

/-- All that is done in a run, except for writing. -/
def acts (run : Run σ α) : List Exchange :=
  run.trace.filter fun exchange => !exchange.request.isWrite

def emissions (run : Run σ α) : List Emission :=
  run.trace.filterMap Exchange.emission?

def written (run : Run σ α) (channel : Channel) : List Emission :=
  writtenIn channel run.trace

theorem written_eq (run : Run σ α) (channel : Channel) :
    run.written channel = run.emissions.filter fun emission =>
      emission.channel = channel :=
  rfl

end Run

namespace Passage

def act? : Passage → Option Exchange
  | .act exchange => some exchange
  | .tell _ => none

def messages (isJson : Bool) : Passage → List Message
  | .act _ => []
  | .tell messages => messages isJson

theorem filter_trace (voice : Voice) {script : List Passage}
    (faithful : ∀ passage ∈ script, passage.IsFaithful) :
    (script.flatMap (trace voice)).filter
    (fun exchange => !exchange.request.isWrite) =
      script.filterMap act? := by
  induction script with
  | nil => rfl
  | cons passage script ih =>
      have rest :=
        ih fun other member => faithful other (List.mem_cons_of_mem _ member)
      have isFaithful := faithful passage List.mem_cons_self
      rw [List.flatMap_cons, List.filter_append, rest]
      cases passage with
      | act exchange =>
          have isAct : exchange.request.isWrite = false := isFaithful
          simp [trace, act?, isAct]
      | tell messages =>
          have onlyWrites : (trace voice (.tell messages)).filter
              (fun exchange => !exchange.request.isWrite) = [] := by
            simp [trace, List.filter_map, Function.comp_def]
          rw [onlyWrites]
          rfl

theorem filterMap_trace (voice : Voice) {script : List Passage}
    (faithful : ∀ passage ∈ script, passage.IsFaithful) :
    (script.flatMap (trace voice)).filterMap Exchange.emission? =
      (script.flatMap (messages voice.isJson)).flatMap voice.speak := by
  induction script with
  | nil => rfl
  | cons passage script ih =>
      have rest :=
        ih fun other member => faithful other (List.mem_cons_of_mem _ member)
      have isFaithful := faithful passage List.mem_cons_self
      rw [List.flatMap_cons, List.filterMap_append, rest, List.flatMap_cons,
        List.flatMap_append]
      congr 1
      cases passage with
      | act exchange =>
        simp [trace, messages, Exchange.emission?_eq_none isFaithful]
      | tell messages =>
        simp [trace, Passage.messages, List.filterMap_map, Function.comp_def]

end Passage

/-! ## Warnings -/

def Emission.warning (text : String) : Emission :=
  .line ("  ⚠ " ++ text)

namespace Message

/-- The line for a warning, where a message is one. -/
def warningLine? : Message → Option Emission
  | .warning text => some (.warning text)
  | _ => none

/-- The warnings among some messages, as a reader sees them. -/
def warningLines (messages : List Message) : List Emission :=
  messages.filterMap warningLine?

/-- The lines of a message without and with paint, side by side. -/
def looks (message : Message) : List (Emission × Emission) :=
  (message.textEmissions false).zip (message.textEmissions true)

def warned? (look : Emission × Emission) : Option Emission :=
  if look.1 ≠ look.2 ∧ "  \x1b[33m".toList.isPrefixOf look.2.text.toList then
    some look.1
  else none

theorem length_textEmissions (message : Message) (isColored : Bool) :
    (message.textEmissions isColored).length =
      (message.textEmissions false).length := by
  cases message with
  | progress verb target isDone => cases isDone <;> rfl
  | content text => simp [textEmissions]
  | _ => rfl

theorem filterMap_warned_looks (message : Message) :
    message.looks.filterMap warned? = message.warningLine?.toList := by
  cases message with
  | progress verb target isDone =>
      cases isDone <;>
      simp [looks, textEmissions, textEmissions.paint, warned?, warningLine?,
        Emission.line, Paint.on, Paint.opening, Paint.closing, List.isPrefixOf]
  | content text =>
      -- A line of a content is never painted, whatever it begins with.
      have plain :
          ∀ emission : Emission, warned? (emission, emission) = none := by
        simp [warned?]
      simp [looks, textEmissions, List.zip_map', List.filterMap_map, plain,
        warningLine?]
  | _ =>
      simp [looks, textEmissions, textEmissions.paint, warned?, warningLine?,
        Emission.line, Emission.errorLine, Emission.clear, Emission.warning,
        Paint.on, Paint.opening, Paint.closing, List.isPrefixOf]

theorem zip_textEmissions (messages : List Message) :
    (messages.flatMap (textEmissions false)).zip
        (messages.flatMap (textEmissions true)) =
      messages.flatMap looks := by
  induction messages with
  | nil => rfl
  | cons message messages ih =>
      have sameLength := (message.length_textEmissions true).symm
      rw [List.flatMap_cons, List.flatMap_cons, List.flatMap_cons,
        List.zip_append sameLength, ih]
      rfl

theorem filterMap_warned (messages : List Message) :
    (messages.flatMap looks).filterMap warned? = warningLines messages := by
  induction messages with
  | nil => rfl
  | cons message messages ih =>
      rw [List.flatMap_cons, List.filterMap_append, filterMap_warned_looks, ih,
        warningLines, warningLines, List.filterMap_cons]
      cases message.warningLine? with
      | none => rfl
      | some line => rfl

/-- Which lines are warnings can be told from how all the lines look, with and
without paint. -/
theorem warningLines_unique {first second : List Message}
    (samePlain : first.flatMap (textEmissions false) =
      second.flatMap (textEmissions false)) (samePainted : first.flatMap
        (textEmissions true) = second.flatMap (textEmissions true)) :
    warningLines first = warningLines second := by
  rw [← filterMap_warned, ← filterMap_warned, ← zip_textEmissions,
    ← zip_textEmissions, samePlain, samePainted]

/-! ## Quiet -/

/-- Quietly, without paint. -/
def hushed (message : Message) : List Emission :=
  message.emissions { Settings.plain with isQuiet := true }

theorem hushed_sublist (message : Message) :
    message.hushed.Sublist (message.textEmissions false) := by
  cases isDispensable : message.isDispensable with
  | true => simp [hushed, emissions, Settings.plain, isDispensable]
  | false => simp [hushed, emissions, Settings.plain, isDispensable]

/-- Nothing that can be done without is an error. -/
theorem errors_hushed (message : Message) :
    message.hushed.filter (fun emission => emission.channel = .errors) =
      (message.textEmissions false).filter
        (fun emission => emission.channel = .errors) := by
  cases message with
  | progress verb target isDone => cases isDone <;> rfl
  | content text =>
      simp [hushed, emissions, Settings.plain, isDispensable, textEmissions,
        Emission.line]
  | _ => rfl

theorem warning_hushed (message : Message) :
    message.warningLine?.toList.Sublist
      (message.hushed.filter fun emission => emission.channel = .output) := by
  cases message with
  | warning text => exact List.Sublist.refl _
  | _ => exact List.nil_sublist _

end Message

/-- How a quiet run differs from one that tells everything. -/
structure Hushes (messages : List Message) (quiet full : Run σ α) : Prop where
  outputs : (quiet.written .output).Sublist (full.written .output)
  warnings : (Message.warningLines messages).Sublist (quiet.written .output)
  errors : quiet.written .errors = full.written .errors

theorem hushes_of_emissions {messages : List Message} {quiet full : Run σ α}
    (isQuiet : quiet.emissions = messages.flatMap Message.hushed)
    (isFull : full.emissions = messages.flatMap (Message.textEmissions false)) :
    Hushes messages quiet full where
  outputs := by
    rw [Run.written_eq, Run.written_eq, isQuiet, isFull]
    apply List.Sublist.filter
    exact List.Sublist.flatMap_right messages fun message _ =>
      message.hushed_sublist
  warnings := by
    have eachLine : Message.warningLines messages =
        messages.flatMap fun message => message.warningLine?.toList :=
      List.filterMap_eq_flatMap_toList ..
    rw [Run.written_eq, isQuiet, List.filter_flatMap, eachLine]
    exact List.Sublist.flatMap_right messages fun message _ =>
      message.warning_hushed
  errors := by
    rw [Run.written_eq, Run.written_eq, isQuiet, isFull, List.filter_flatMap,
      List.filter_flatMap]
    simp only [Message.errors_hushed]

/-! ## All voices -/

/-- Whether every reader is told certain messages, in quiet or in color or
both. -/
def TellsReaders (ran : Presentation → Run σ α) (messages : List Message) :
    Prop :=
  ∀ presentation, presentation.isJson = false →
    (ran presentation).emissions =
      messages.flatMap (Message.emissions presentation.settings)

/-- No two lists of messages that are told have different warnings. -/
theorem TellsReaders.warningLines_unique {ran : Presentation → Run σ α}
    {first second : List Message} (tellsFirst : TellsReaders ran first)
    (tellsSecond : TellsReaders ran second) :
    Message.warningLines first = Message.warningLines second :=
  have sameLook : ∀ color : ColorChoice,
      first.flatMap (Message.textEmissions (color.isColored false)) =
        second.flatMap (Message.textEmissions (color.isColored false)) :=
          fun color =>
    (tellsFirst ⟨color, false, false, 0⟩ rfl).symm.trans
      (tellsSecond ⟨color, false, false, 0⟩ rfl)
  Message.warningLines_unique (sameLook .never) (sameLook .always)

/-- What it means that speaking changes nothing. -/
structure Unswayed (ran : Presentation → Run σ α) : Prop where
  /-- All that is done, command by command, question by question and event by
  event. -/
  acts : ∀ one other, (ran one).acts = (ran other).acts
  value : ∀ one other, (ran one).value = (ran other).value
  /-- The surroundings are left alike, with all the files in them. -/
  state : ∀ one other, (ran one).state = (ran other).state
  told : ∃ messages, TellsReaders ran messages
  /-- Which lines are warnings can be seen from the runs. -/
  warned : ∀ first second, TellsReaders ran first → TellsReaders ran second →
    Message.warningLines first = Message.warningLines second
  hushed : ∀ messages, TellsReaders ran messages → ∀ quiet full : Presentation,
    quiet.settings = { Settings.plain with isQuiet := true } →
    full.settings = Settings.plain →
    Hushes messages (ran quiet) (ran full)

theorem unswayed_of_voiced {part : Presentation → Procedure α}
    (voiced : Procedure.Voiced (fun presentation => presentation.settings.voice)
        part) (surroundings : Surroundings σ) (state : σ) :
    Unswayed fun presentation =>
      (part presentation).run surroundings.unread state := by
  obtain ⟨script, value, last, faithful, runs⟩ :=
    voiced.exists_script surroundings state
  have acts :
      ∀ presentation, ((part presentation).run surroundings.unread state).acts =
      script.filterMap Passage.act? := by
    intro presentation
    rw [runs presentation]
    exact Passage.filter_trace presentation.settings.voice faithful
  have tells : ∀ presentation,
      ((part presentation).run surroundings.unread state).emissions =
      (script.flatMap (Passage.messages presentation.isJson)).flatMap
        (Message.emissions presentation.settings) := by
    intro presentation
    rw [runs presentation]
    exact Passage.filterMap_trace presentation.settings.voice faithful
  refine ⟨?_, ?_, ?_, ?_, fun _ _ => TellsReaders.warningLines_unique, ?_⟩
  · intro one other
    rw [acts one, acts other]
  · intro one other
    rw [runs one, runs other]
  · intro one other
    rw [runs one, runs other]
  · refine ⟨script.flatMap (Passage.messages false),
      fun presentation isText => ?_⟩
    rw [tells presentation, isText]
  · intro messages told quiet full isQuiet isFull
    apply hushes_of_emissions
    · rw [told quiet (congrArg Settings.isJson isQuiet), isQuiet]
      rfl
    · rw [told full (congrArg Settings.isJson isFull), isFull]
      rfl

/-- However a command is to be presented, the same is done, with the same exit
code, and readers are told the same. -/
theorem CommandLine.execute_unswayed (line : CommandLine) (command : Command)
    (config : Config) (horizon : Nat) (surroundings : Surroundings σ)
    (state : σ) :
    Unswayed fun presentation =>
      (({ line with command? := some command }.presented presentation).execute
          config horizon).run
        surroundings.unread state :=
  unswayed_of_voiced
    (voiced_executeIn { line with command? := some command } config horizon
      nofun)
    surroundings state

end ClusterConsole
