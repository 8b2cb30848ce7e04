import ClusterConsole.Proofs.Console.Presentation
import ClusterConsole.Proofs.Json.Lines

/-!
# What other programs are told

To other programs the console writes lines, each of which is one object.  A
program that takes the output apart at its line feeds and reads every line by
the rules of JSON gets back the very objects that were told, whatever texts
there are in them.
-/

namespace ClusterConsole

open Json (IsMapped IsObject isObject_object isMapped_object)

theorem writtenIn_append (channel : Channel) (early late : List Exchange) :
    writtenIn channel (early ++ late) = writtenIn channel early ++
      writtenIn channel late := by
  simp [writtenIn]

theorem writtenIn_act (channel : Channel) {exchange : Exchange}
    (isAct : exchange.request.isWrite = false) (trace : List Exchange) :
    writtenIn channel (exchange :: trace) = writtenIn channel trace := by
  simp [writtenIn, Exchange.emission?_eq_none isAct]

theorem writtenIn_exchanges (channel : Channel) (emissions : List Emission) :
    writtenIn channel (emissions.map Emission.exchange) =
      emissions.filter fun emission => emission.channel = channel := by
  simp [writtenIn, List.filterMap_map, Function.comp_def]

/-! ## The objects of a message -/

namespace Message

/-- An object for other programs, with the kind of a message and what there is
to it. -/
def object (kind : String) (payload : List (String × Json.Value)) :
    Json.Value :=
  .object [("type", .text kind), ("payload", .object payload)]

/-- What other programs are to read on the output for a message. -/
def objects : Message → List Json.Value
  | .header version =>
    [object "header" [("app", .text "kindops"), ("version", .text version)]]
  | .success text => [object "success" [("message", .text text)]]
  | .warning text => [object "warning" [("message", .text text)]]
  | .heading title => [object "section" [("title", .text title)]]
  | .note text => [object "note" [("message", .text text)]]
  | .hint text => [object "hint" [("message", .text text)]]
  | .content text => [object "lines" [("content", .text text)]]
  | .progress verb target isDone =>
    [object "action"
      [("verb", .text verb), ("target", .text target),
        ("status", .text (if isDone then "done" else "in_progress"))]]
  | .searched true text => [object "spinner_success" [("message", .text text)]]
  | .searched false text => [object "spinner_fail" [("message", .text text)]]
  | .result value => [value]
  -- These are no lines of the output.
  | .error _ => []
  | .clear => []
  | .fatal _ => []

theorem isObject_one (kind : String) {payload : List (String × Json.Value)}
    (mapped : ∀ entry ∈ payload, IsMapped entry.2) :
    ∀ value ∈ [object kind payload], IsObject value := by
  intro value member
  rw [List.mem_singleton.mp member]
  apply isObject_object
  simpa using ⟨.text kind, isMapped_object mapped⟩

theorem TellsObjects.isObject {message : Message}
    (tells : message.TellsObjects) :
    ∀ value ∈ message.objects, IsObject value := by
  have text : ∀ kind key own, ∀ value ∈ [object kind [(key, .text own)]],
      IsObject value :=
    fun kind key own => isObject_one kind (by simpa using .text own)
  cases message with
  | header version =>
    exact isObject_one "header" (by simpa using ⟨.text _, .text version⟩)
  | success own => exact text "success" "message" own
  | warning own => exact text "warning" "message" own
  | heading title => exact text "section" "title" title
  | note own => exact text "note" "message" own
  | hint own => exact text "hint" "message" own
  | content own => exact text "lines" "content" own
  | progress verb target isDone =>
      exact isObject_one "action"
        (by simpa using ⟨.text verb, .text target, .text _⟩)
  | searched isFound own =>
      cases isFound with
      | true => exact text "spinner_success" "message" own
      | false => exact text "spinner_fail" "message" own
  | result value => simpa [objects] using tells value rfl
  | _ => exact nofun

/-- For a message nothing else is written on the output than the lines of its
objects. -/
theorem output_jsonEmissions (message : Message) :
    message.jsonEmissions.filter (fun emission => emission.channel = .output) =
      message.objects.map fun value => .line value.render := by
  cases message with
  | searched isFound text => cases isFound <;> rfl
  | _ => rfl

theorem output_flatMap (messages : List Message) :
    (messages.flatMap jsonEmissions).filter
    (fun emission => emission.channel = .output) =
      (messages.flatMap objects).map fun value => .line value.render := by
  simp only [List.filter_flatMap, output_jsonEmissions, List.map_flatMap]

end Message

/-! ## Lines that can be read -/

/-- What it means that some emissions can be read by other programs. -/
structure AreObjectLines (emissions : List Emission)
    (values : List Json.Value) : Prop where
  objects : ∀ value ∈ values, IsObject value
  lines : emissions = values.map fun value => .line value.render
  /-- Each object takes up a single line. -/
  single : ∀ value ∈ values, '\n' ∉ value.render.toList
  read : ∀ value ∈ values, Json.read? value.render.toList = some value
  readAll : Json.readLines? (emissions.flatMap fun emission =>
    emission.text.toList) = some values

theorem areObjectLines_lines {values : List Json.Value}
    (objects : ∀ value ∈ values, IsObject value) :
    AreObjectLines (values.map fun value => .line value.render) values := by
  have chars : ∀ value : Json.Value, value.render.toList = value.chars :=
    fun value => String.toList_ofList
  refine ⟨objects, rfl, ?_, ?_, ?_⟩
  · intro value member
    rw [chars]
    exact (objects value member).1.visible.isLine
  · intro value member
    rw [chars]
    exact Json.read?_chars (objects value member).1
  · have reads :=
      Json.readLines?_lines fun value member => (objects value member).1
    simpa [List.flatMap_map, Emission.line, chars] using reads

theorem Message.areObjectLines {messages : List Message}
    (tells : ∀ message ∈ messages, message.TellsObjects) :
    AreObjectLines
      ((messages.flatMap jsonEmissions).filter fun emission =>
        emission.channel = .output)
      (messages.flatMap objects) := by
  rw [output_flatMap]
  apply areObjectLines_lines
  intro value member
  obtain ⟨message, isTold, member⟩ := List.mem_flatMap.mp member
  exact (tells message isTold).isObject value member

/-! ## The messages told -/

/-- Whether certain messages are what other programs are told: whatever is
written for each of them, just that is written. -/
def TellsPrograms (ran : (Message → List Emission) → Run σ α)
    (messages : List Message) :
    Prop :=
  ∀ speak, (ran speak).emissions = messages.flatMap speak

/-- Lists of messages can be told apart by what is written for each message. -/
theorem eq_of_flatMap_speak {first second : List Message}
    (same : ∀ speak : Message → List Emission,
      first.flatMap speak = second.flatMap speak) :
    first = second := by
  classical
  let mark (own message : Message) : Emission :=
    if message = own then .clear else .line ""
  have marks : ∀ own, first.map (mark own) = second.map (mark own) := by
    intro own
    rw [List.map_eq_flatMap, List.map_eq_flatMap]
    exact same _
  have sameLength : first.length = second.length := by
    simpa using congrArg List.length (marks .clear)
  apply List.ext_getElem sameLength
  intro place inFirst inSecond
  -- The message at the place is marked in one list, and so it is in the other.
  have marked : mark first[place] second[place] = .clear := by
    have atPlace := congrArg (fun marks => marks[place]?) (marks first[place])
    simpa [inFirst, inSecond, mark] using atPlace.symm
  have differs : Emission.line "" ≠ .clear := by decide
  by_contra isOther
  exact differs (by simpa [mark, Ne.symm isOther] using marked)

theorem TellsPrograms.unique {ran : (Message → List Emission) → Run σ α}
    {first second : List Message} (tellsFirst : TellsPrograms ran first)
    (tellsSecond : TellsPrograms ran second) : first = second :=
  eq_of_flatMap_speak fun speak =>
    (tellsFirst speak).symm.trans (tellsSecond speak)

/-- The voice for other programs, for what is to be written. -/
def Voice.toPrograms (speak : Message → List Emission) : Voice :=
  ⟨true, id, speak⟩

theorem Settings.voice_of_isJson {settings : Settings}
    (isJson : settings.isJson = true) :
    settings.voice = .toPrograms Message.jsonEmissions := by
  have mute : settings.muted = id := by
    funext text
    simp [muted, isJson, Paint.on]
  have speak : Message.emissions settings = Message.jsonEmissions := by
    funext message
    simp [Message.emissions, isJson]
  rw [voice, mute, speak, isJson]
  rfl

namespace Procedure

theorem ensures_writing_iff {emissions : List Emission} {next : Procedure α}
    {after : List Exchange → α → Prop} :
    (writing emissions next).Ensures after ↔
      next.Ensures fun trace value =>
        after (emissions.map Emission.exchange ++ trace) value := by
  induction emissions generalizing after with
  | nil => rfl
  | cons emission emissions ih =>
      exact ⟨fun ensures => ih.mp (ensures ()), fun ensures _ => ih.mpr ensures⟩

variable {part : (Message → List Emission) → Procedure α}

/-- In a voice for other programs only objects are told, against any
surroundings. -/
theorem Voiced.ensures_objects (voiced : Voiced Voice.toPrograms part) :
    (part Message.jsonEmissions).Ensures fun trace _ =>
      ∃ messages : List Message, (∀ message ∈ messages, message.TellsObjects) ∧
        writtenIn .output trace =
          (messages.flatMap Message.jsonEmissions).filter
          fun emission => emission.channel = .output := by
  induction voiced with
  | done value => exact ⟨[], nofun, rfl⟩
  | act isAct _ ih =>
      intro reply
      apply (ih reply).mono
      rintro trace value ⟨messages, objects, written⟩
      exact ⟨messages, objects,
        (writtenIn_act .output isAct trace).trans written⟩
  | @tell told next objects _ ih =>
      apply ensures_writing_iff.mpr
      apply ih.mono
      rintro trace value ⟨messages, others, written⟩
      refine ⟨told true ++ messages,
        List.forall_mem_append.mpr ⟨objects, others⟩, ?_⟩
      rw [writtenIn_append, writtenIn_exchanges, written, List.flatMap_append,
        List.filter_append]
      rfl

/-- Where nothing depends on what is written, the same objects are told whatever
is written. -/
theorem Voiced.exists_tellsPrograms (voiced : Voiced Voice.toPrograms part)
    (surroundings : Surroundings σ) (state : σ) :
    ∃ messages : List Message, (∀ message ∈ messages, message.TellsObjects) ∧
      TellsPrograms (fun speak => (part speak).run surroundings.unread state)
        messages := by
  obtain ⟨script, value, last, faithful, runs⟩ :=
    voiced.exists_script surroundings state
  refine ⟨script.flatMap (Passage.messages true), ?_, fun speak => ?_⟩
  · intro message member
    obtain ⟨passage, inScript, member⟩ := List.mem_flatMap.mp member
    cases passage with
    | act exchange => cases member
    | tell messages => exact faithful _ inScript message member
  · dsimp only
    rw [runs speak]
    exact Passage.filterMap_trace (.toPrograms speak) faithful

end Procedure

namespace CommandLine

theorem voiced_toPrograms (line : CommandLine) (config : Config)
    (horizon : Nat) :
    Procedure.Voiced Voice.toPrograms fun speak =>
      line.executeIn (.toPrograms speak) config horizon :=
  -- No voice for other programs paints anything, so the items of the menu look
  -- alike.
  voiced_executeIn line config horizon fun _ => ⟨id, fun _ => rfl⟩

/-- Whatever the console is told to do and whatever there is in the results,
other programs can read all that it writes on its output, and what they read are
the objects of the messages that it tells. -/
theorem execute_writes_objects (line : CommandLine) (config : Config)
    (horizon : Nat) (surroundings : Surroundings σ) (state : σ) :
    let json : CommandLine := { line with isJson := true }
    let ran := fun speak =>
      (json.executeIn (.toPrograms speak) config horizon).run
        surroundings.unread state
    (∃ messages, TellsPrograms ran messages) ∧
    (∀ messages, TellsPrograms ran messages →
      AreObjectLines
        (((json.execute config horizon).run surroundings.unread
          state).written .output)
        (messages.flatMap Message.objects)) ∧
    ∃ values, AreObjectLines
      (((json.execute config horizon).run surroundings state).written .output)
      values := by
  intro json ran
  have isSame : json.execute config horizon =
      json.executeIn (.toPrograms Message.jsonEmissions) config horizon := by
    have isJson : json.settings.isJson = true := rfl
    rw [execute, Settings.voice_of_isJson isJson]
  have voiced := json.voiced_toPrograms config horizon
  obtain ⟨told, objects, tells⟩ :=
    voiced.exists_tellsPrograms surroundings state
  rw [isSame]
  refine ⟨⟨told, tells⟩, fun messages others => ?_, ?_⟩
  · rw [others.unique tells, Run.written_eq, tells Message.jsonEmissions]
    exact Message.areObjectLines objects
  · obtain ⟨messages, objects, written⟩ :=
      voiced.ensures_objects.run surroundings state
    refine ⟨messages.flatMap Message.objects, ?_⟩
    rw [Run.written, written]
    exact Message.areObjectLines objects

end CommandLine

end ClusterConsole
