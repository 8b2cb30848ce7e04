import ClusterConsole.Proofs.Console.Execution
import ClusterConsole.Proofs.Console.Voices

/-!
# Everything the console does, in all voices

Each command, the menu and the report of a failure are voiced: none of them
looks at how it speaks except to choose the form of its summary.  The menu alone
shows its items in color, so it is the same only in voices that paint alike.
-/

namespace ClusterConsole

open Json (IsMapped IsObject isObject_object isMapped_object)

/-! ## Summaries -/

theorem Message.tellsObjects_result {value : Json.Value}
    (object : IsObject value) :
    ∀ message ∈ [Message.result value], message.TellsObjects := by
  intro message member own isResult
  rw [List.mem_singleton.mp member] at isResult
  cases isResult
  exact object

theorem ImageReport.isMapped_json (report : ImageReport) :
    IsMapped report.json := by
  apply IsMapped.list
  intro item member
  obtain ⟨result, _, rfl⟩ := List.mem_map.mp member
  apply isMapped_object
  simpa using ⟨.text _, .text _, .text _, .boolean _⟩

theorem ImageReport.tellsObjects_summary (command : String)
    (report : ImageReport) :
    ∀ message ∈ report.summary true command, message.TellsObjects := by
  apply Message.tellsObjects_result
  apply isObject_object
  simpa using ⟨.text _, .text _, report.isMapped_json⟩

theorem Outcome.tellsObjects_summary (command done : String)
    (outcome : Outcome) :
    ∀ message ∈ outcome.summary true command done, message.TellsObjects := by
  have warnings : IsMapped
      (.list (outcome.warnings.map fun warning => .text warning.text)) := by
    apply IsMapped.list
    intro item member
    obtain ⟨warning, _, rfl⟩ := List.mem_map.mp member
    exact .text _
  apply Message.tellsObjects_result
  apply isObject_object
  simpa using ⟨.text _, .text _, warnings, outcome.images.isMapped_json⟩

theorem isMapped_ofOption (text? : Option String) :
    IsMapped (.ofOption text?) := by
  cases text? with
  | none => exact .null
  | some text => exact .text text

theorem Roster.tellsObjects_summary (roster : Roster) :
    ∀ message ∈ roster.summary true, message.TellsObjects := by
  have services : IsMapped (.list (roster.services.map fun service =>
      .object
        [("name", .text service.name), ("alias", .ofOption service.alias?),
          ("context", .text service.directory.text)])) := by
    apply IsMapped.list
    intro item member
    obtain ⟨service, _, rfl⟩ := List.mem_map.mp member
    apply isMapped_object
    simpa using ⟨.text _, isMapped_ofOption _, .text _⟩
  apply Message.tellsObjects_result
  apply isObject_object
  simpa using ⟨.text _, services⟩

theorem WrittenSecret.tellsObjects_summary (written : WrittenSecret) :
    ∀ message ∈ written.summary true, message.TellsObjects := by
  apply Message.tellsObjects_result
  apply isObject_object
  simpa using ⟨.text _, .text _, .boolean _⟩

namespace Console

open Operation

/-- A console for each voice. -/
@[reducible] def speaking (voices : ι → Voice) (config : Config) (horizon : Nat)
    (speaker : ι) : Console :=
  ⟨voices speaker, config, horizon⟩

section Commands

variable {voices : ι → Voice} {config : Config} {horizon : Nat}

theorem voiced_tell (messages : List Message)
    (objects : ∀ message ∈ messages, message.TellsObjects) :
    Voiced voices fun speaker =>
      (speaking voices config horizon speaker).say messages :=
  voiced_say (fun _ => messages) (fun _ => rfl) objects

/-- A single message that is no result. -/
theorem voiced_tell_one {message : Message}
    (isNoResult : ∀ value, message ≠ .result value) :
    Voiced voices fun speaker =>
      (speaking voices config horizon speaker).say [message] :=
  voiced_tell [message] (by
    simpa [Message.TellsObjects] using fun value isResult =>
      absurd isResult (isNoResult value))

theorem voiced_summary (command done : String) (outcome : Outcome) :
    Voiced voices fun speaker => (speaking voices config horizon speaker).say
      (outcome.summary (voices speaker).isJson command done) :=
  voiced_say (fun isJson => outcome.summary isJson command done)
    (fun _ => rfl) (outcome.tellsObjects_summary command done)

theorem voiced_imageSummary (command : String) (report : ImageReport) :
    Voiced voices fun speaker => (speaking voices config horizon speaker).say
      (report.summary (voices speaker).isJson command) :=
  voiced_say (fun isJson => report.summary isJson command)
    (fun _ => rfl) (report.tellsObjects_summary command)

theorem voiced_summarize (command done : String) (undertaking : Undertaking) :
    Voiced voices fun speaker =>
      (speaking voices config horizon speaker).summarize command done
      (undertaking.operation config) :=
  voiced_bind (voiced_call config (.undertake undertaking)) fun outcome =>
    voiced_summary command done outcome

theorem voiced_bootstrap :
    Voiced voices fun speaker =>
      (speaking voices config horizon speaker).bootstrap := by
  apply voiced_bind (voiced_result (voiced_call config (.undertake .bootstrap)))
  have hints : Voiced voices fun speaker =>
      (speaking voices config horizon speaker).say [runtimeHint] :=
    voiced_tell_one nofun
  intro result
  cases result with
  | error failure => exact voiced_bind hints fun _ => voiced_throw failure
  | ok outcome =>
      have sums : Voiced voices fun speaker =>
          (speaking voices config horizon speaker).say
            (outcome.summary (voices speaker).isJson "bootstrap"
              "Cluster ready") :=
        voiced_summary "bootstrap" "Cluster ready" outcome
      dsimp only
      cases outcome.warnings.any isAboutSetup with
      | true => exact voiced_bind hints fun _ => sums
      | false => exact sums

theorem voiced_build :
    Voiced voices fun speaker =>
      (speaking voices config horizon speaker).build := by
  apply voiced_bind (voiced_result (voiced_call config .buildAll))
  intro result
  cases result with
  | ok report => exact voiced_imageSummary "build" report
  | error failure =>
      have failed : Voiced voices fun speaker =>
          (speaking voices config horizon speaker).say
            (build.failedReport (speaking voices config horizon speaker)
                failure) := by
        cases failure with
        | imageNotLoaded service report cause =>
          exact voiced_imageSummary "build" report
        | _ => exact voiced_tell [] nofun
      exact voiced_bind failed fun _ => voiced_throw failure

theorem voiced_secrets :
    Voiced voices fun speaker =>
      (speaking voices config horizon speaker).secrets :=
  voiced_bind (voiced_call config .writeSecret) fun written =>
    voiced_say (fun isJson => written.summary isJson) (fun _ => rfl)
      written.tellsObjects_summary

theorem voiced_services :
    Voiced voices fun speaker =>
      (speaking voices config horizon speaker).perform .services :=
  voiced_say (fun isJson => config.roster.summary isJson) (fun _ => rfl)
    config.roster.tellsObjects_summary

theorem voiced_check :
    Voiced voices fun speaker =>
      (speaking voices config horizon speaker).check := by
  apply voiced_bind (voiced_result (voiced_call config .checkPrerequisites))
  intro result
  cases result with
  | ok => exact voiced_tell_one nofun
  | error failure =>
      exact voiced_bind (voiced_tell_one nofun) fun _ => voiced_throw failure

/-! ## Display loops -/

theorem voiced_display {asked : DisplayRequest} :
    Voiced voices fun _ => display asked :=
  voiced_request rfl

theorem voiced_pause (slices : List Nat) :
    Voiced voices fun _ => Display.pause slices := by
  induction slices with
  | nil => exact voiced_pure ()
  | cons first rest ih =>
      apply voiced_bind voiced_display
      intro isStopped
      cases isStopped with
      | true => exact voiced_pure ()
      | false => exact voiced_bind voiced_display fun _ => ih

theorem voiced_frames (title : String) {fetch : Operation String}
    (fetches : Voiced voices fun _ => fetch) (horizon : Nat) :
    Voiced voices fun speaker =>
      Display.frames (voices speaker) title fetch horizon := by
  induction horizon with
  | zero => exact voiced_pure ()
  | succ horizon ih =>
      apply voiced_bind voiced_display
      intro isStopped
      cases isStopped with
      | true => exact voiced_pure ()
      | false =>
          apply voiced_bind fetches
          intro text
          apply voiced_bind voiced_display
          intro isStopped
          cases isStopped with
          | true => exact voiced_pure ()
          | false =>
              have drawn : Voiced voices fun speaker =>
                  Operation.say (voices speaker) (Display.frame title text) :=
                voiced_say (fun _ => Display.frame title text)
                  (fun _ => rfl) (by
                  simp [Display.frame, Message.TellsObjects])
              apply voiced_bind drawn
              intro _
              exact voiced_bind (voiced_pause _) fun _ => ih

theorem voiced_interruptible {part : ι → Operation α}
    (voiced : Voiced voices part) :
    Voiced voices fun speaker => interruptible (part speaker) := by
  apply voiced_bind voiced_display
  intro _
  apply voiced_bind (voiced_result voiced)
  intro outcome
  exact voiced_bind voiced_display fun _ => voiced_ofResult outcome

theorem voiced_present (watches : Bool) (title : String)
    {fetch : Operation String} (fetches : Voiced voices fun _ => fetch) :
    Voiced voices fun speaker =>
      (speaking voices config horizon speaker).present watches title fetch := by
  cases watches with
  | true => exact voiced_interruptible (voiced_frames title fetches horizon)
  | false =>
      apply voiced_bind fetches
      intro text
      exact voiced_say (fun _ => [.heading title, .content text])
        (fun _ => rfl) (by
        simp [Message.TellsObjects])

theorem voiced_logs (target : String) (follows : Bool) :
    Voiced voices fun speaker =>
      (speaking voices config horizon speaker).logs target follows := by
  apply voiced_bind (voiced_result (voiced_call config (.findPod target)))
  intro result
  cases result with
  | error failure =>
      exact voiced_bind (voiced_tell_one nofun) fun _ => voiced_throw failure
  | ok pod? =>
      cases pod? with
      | none => exact voiced_tell_one nofun
      | some pod =>
          apply voiced_bind (voiced_tell_one (by nofun))
          intro _
          cases follows with
          | true =>
            exact voiced_interruptible
              (voiced_call config (.streamLogs pod true))
          | false => exact voiced_call config (.streamLogs pod false)

theorem voiced_perform (command : Command) :
    Voiced voices fun speaker =>
      (speaking voices config horizon speaker).perform command := by
  cases command with
  | bootstrap => exact voiced_bootstrap
  | build => exact voiced_build
  | deployInfra => exact voiced_summarize _ _ .deployInfrastructure
  | deploy => exact voiced_summarize _ _ .deployServices
  | ship service => exact voiced_summarize _ _ (.ship service)
  | applyConfig restarts => exact voiced_summarize _ _ .applyConfig
  | status watches =>
      exact voiced_present watches _ (voiced_call config .status)
  | logs target follows => exact voiced_logs target follows
  | top scope watches =>
      exact voiced_present watches _ (voiced_call config (.metrics scope))
  | teardown => exact voiced_summarize _ _ .teardown
  | services => exact voiced_services
  | secrets => exact voiced_secrets
  | check => exact voiced_check

/-! ## The menu -/

/-- Whether all voices paint the items of the menu alike. -/
def PaintsAlike (voices : ι → Voice) : Prop :=
  ∃ mute : String → String, ∀ speaker, (voices speaker).mute = mute

theorem voiced_select (items : List String) :
    Voiced voices fun _ => select items := by
  apply voiced_bind (voiced_request rfl)
  intro reply
  exact voiced_bind (voiced_ofAnswer reply) fun _ => voiced_pure _

theorem voiced_dispatch (entry : MenuEntry) :
    Voiced voices fun speaker =>
      (speaking voices config horizon speaker).dispatch entry := by
  cases entry with
  | bootstrap => exact voiced_perform .bootstrap
  | buildAll => exact voiced_perform .build
  | deployInfrastructure => exact voiced_perform .deployInfra
  | deployServices => exact voiced_perform .deploy
  | ship =>
      exact voiced_bind (voiced_select config.roster.choices) fun service =>
        voiced_perform (.ship service)
  | applyConfig => exact voiced_perform (.applyConfig false)
  | watchStatus => exact voiced_perform (.status true)
  | logs =>
      apply voiced_bind (voiced_select config.allLogTargets)
      intro target
      apply voiced_bind (voiced_request rfl)
      intro reply
      apply voiced_bind (voiced_ofAnswer reply)
      intro follows
      exact voiced_perform (.logs target follows)
  | nodeMetrics => exact voiced_perform (.top .nodes true)
  | podMetrics => exact voiced_perform (.top .pods true)
  | teardown => exact voiced_perform .teardown
  | exit => exact voiced_pure ()

theorem voiced_failure (failure : Failure) :
    Voiced voices fun speaker =>
      (speaking voices config horizon speaker).say
        (Message.ofFailure failure) :=
  voiced_tell _ (Message.tellsObjects_ofFailure failure)

/-- A choice between items that are the same in all voices. -/
theorem voiced_choice {question : String}
    {items : ι → List String} {preset : Nat} {isOptional : Bool}
    {next : ι → Except String (Option Nat) → Operation α}
    {common : List String} (same : ∀ speaker, items speaker = common)
    (goesOn : ∀ reply, Voiced voices fun speaker => next speaker reply) :
    Voiced voices fun speaker =>
      request (.choose question (items speaker) preset isOptional) >>=
        next speaker := by
  obtain rfl : items = fun _ => common := funext same
  exact voiced_bind (voiced_request rfl) goesOn

theorem voiced_menuRounds (alike : PaintsAlike voices) (rounds : Nat) :
    Voiced voices fun speaker =>
      (speaking voices config horizon speaker).menuRounds rounds := by
  obtain ⟨mute, alike⟩ := alike
  induction rounds with
  | zero => exact voiced_pure ()
  | succ rounds ih =>
      have sameItems : ∀ speaker,
          MenuEntry.all.map (MenuEntry.item (voices speaker)) =
            MenuEntry.all.map fun entry =>
              entry.name ++ String.ofList (List.replicate
                (MenuEntry.nameColumns - entry.name.length) ' ') ++ " " ++
                mute entry.description := by
        intro speaker
        apply List.map_congr_left
        intro entry _
        rw [MenuEntry.item, alike speaker]
      apply voiced_choice sameItems
      intro reply
      apply voiced_bind (voiced_ofAnswer reply)
      intro place?
      cases place?.bind fun place => MenuEntry.all[place]? with
      | none => exact voiced_pure ()
      | some entry =>
          have dispatched : Voiced voices fun speaker =>
              result ((speaking voices config horizon speaker).dispatch
                  entry) :=
            voiced_result (voiced_dispatch entry)
          cases entry with
          | exit => exact voiced_pure ()
          | _ =>
              apply voiced_bind dispatched
              intro outcome
              cases outcome with
              | ok => exact ih
              | error failure =>
                  have told : Voiced voices fun speaker =>
                      (speaking voices config horizon speaker).say
                        (Message.ofFailure failure) :=
                    voiced_failure failure
                  dsimp only
                  cases failure.isFatal with
                  | true => exact voiced_throw failure
                  | false => exact voiced_bind told fun _ => ih

theorem voiced_menu (alike : PaintsAlike voices) :
    Voiced voices fun speaker =>
      (speaking voices config horizon speaker).menu := by
  apply voiced_bind (voiced_tell_one (by nofun))
  intro _
  apply voiced_bind (voiced_menuRounds alike horizon)
  intro _
  exact voiced_tell_one nofun

/-! ## Everything -/

theorem voiced_carryOut {command? : Option Command}
    (alike : command? = none → PaintsAlike voices) :
    Voiced voices fun speaker =>
      (speaking voices config horizon speaker).carryOut command? := by
  cases command? with
  | none => exact voiced_menu (alike rfl)
  | some command => exact voiced_perform command

theorem voiced_attempt {command? : Option Command}
    (alike : command? = none → PaintsAlike voices) :
    Voiced voices fun speaker =>
      (speaking voices config horizon speaker).attempt command? := by
  have carriesOut : Voiced voices fun speaker =>
      (speaking voices config horizon speaker).carryOut command? :=
        voiced_carryOut alike
  by_cases needs : NeedsTools command?
  · simp only [attempt_of_needs _ _ needs]
    exact voiced_bind (voiced_call config .checkPrerequisites) fun _ =>
      carriesOut
  · simp only [attempt_of_not_needs _ _ needs]
    exact carriesOut

theorem voiced_execute {command? : Option Command}
    (alike : command? = none → PaintsAlike voices) :
    Procedure.Voiced voices fun speaker =>
      (speaking voices config horizon speaker).execute command? := by
  apply Procedure.Voiced.bind (voiced_attempt alike)
  intro result
  cases result with
  | ok => exact .done 0
  | error failure =>
      exact Procedure.voiced_telling _ (Message.tellsObjects_ofFailure failure)
        (.done 1)

end Commands

end Console

/-! ## Command lines -/

/-- What a command line says about how the console speaks. -/
structure Presentation where
  color : ColorChoice
  isJson : Bool
  isQuiet : Bool
  verbosity : Nat
deriving DecidableEq, Repr

/-- How the console speaks when its output is not on a terminal. -/
def Presentation.settings (presentation : Presentation) : Settings :=
  ⟨presentation.isJson, presentation.isQuiet,
    presentation.color.isColored false⟩

namespace CommandLine

/-- A command line that asks for the same in another voice. -/
def presented (line : CommandLine) (presentation : Presentation) :
    CommandLine :=
  { line with
    color := presentation.color
    isJson := presentation.isJson
    isQuiet := presentation.isQuiet
    verbosity := presentation.verbosity }

theorem voiced_executeIn (line : CommandLine)
    (config : Config) (horizon : Nat) {voices : ι → Voice}
    (alike : line.command? = none → Console.PaintsAlike voices) :
    Procedure.Voiced voices fun speaker =>
      line.executeIn (voices speaker) config horizon := by
  have executed : Procedure.Voiced voices fun speaker =>
      (⟨voices speaker, config, horizon⟩ : Console).execute line.command? :=
    Console.voiced_execute alike
  unfold executeIn
  cases line.consents with
  | true => exact executed.narrated.accepting
  | false => exact executed.narrated

end CommandLine

end ClusterConsole
