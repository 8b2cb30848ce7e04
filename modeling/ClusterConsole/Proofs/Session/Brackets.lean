import ClusterConsole.Proofs.Session.Steps

/-!
# Every deed is announced

A deed is a command that changes something.  It is announced right before it,
and once more right after it if and only if it has succeeded, so whoever listens
knows what has been done and what is being done.  This is read off what is
heard, which is made of brackets: a query, a deed between its announcements, or
the writing of the secret.
-/

namespace ClusterConsole

/-! ## What is heard -/

/-- Whether a command is run or an event announced. -/
def Request.isHeard : Request → Bool
  | .run _ _ => true
  | .announce _ => true
  | _ => false

def heard (trace : List Exchange) : List Exchange :=
  trace.filter fun exchange => exchange.request.isHeard

/-- An event, as it is heard. -/
abbrev Exchange.ofEvent (event : Event) : Exchange := ⟨.announce event, ()⟩

/-- Whether something is announced that has just come to its end. -/
def Exchange.isClosing : Exchange → Bool
  | ⟨.announce (.finished _ _), _⟩ => true
  | ⟨.announce (.degraded _), _⟩ => true
  | _ => false

/-- The verbs of the commands that change something. -/
def Invocation.deedVerbs : List String :=
  ["create", "delete", "apply", "rollout", "wait", "build", "load"]

/-- Whether a command creates, deletes, applies, restarts, waits, builds or
loads. -/
def Invocation.isDeed (invocation : Invocation) : Bool :=
  invocation.arguments.head?.any fun verb => deedVerbs.contains verb

/-- The kind of step that a command is, and its target.  What a bootstrap
applies is the ingress controller. -/
def Call.step? (call : Call) (invocation : Invocation) :
    Option (Action × String) :=
  match invocation.arguments with
  | ["create", "cluster", "--config", _, "--name", name] =>
    some (.createCluster, name)
  | ["create", "namespace", name] => some (.createNamespace, name)
  | ["delete", "cluster", "--name", name] => some (.deleteCluster, name)
  | ["apply", "-f", manifest] =>
    some (if call = .undertake .bootstrap then .installIngress else .apply,
      manifest)
  | "rollout" :: "restart" :: target :: _ => some (.restart, target)
  | "wait" :: "--for=condition=ready" :: "pod" :: "-l" :: selector :: _ =>
    some (.waitReady, selector)
  | "build" :: "-t" :: image :: _ => some (.buildImage, image)
  | "load" :: "docker-image" :: image :: _ => some (.loadImage, image)
  | _ => none

/-- Whether the failure of a step is always announced. -/
def Action.isTolerated : Action → Bool
  | .waitReady => true
  | .installIngress => true
  | _ => false

/-- What is true at one place of what is heard, told from what comes before and
after. -/
structure Told (call : Call) (before : List Exchange) (here : Exchange)
    (after : List Exchange) : Prop where
  deed : ∀ invocation options reply, here = ⟨.run invocation options, reply⟩ →
    invocation.isDeed = true →
    ∃ action target, call.step? invocation = some (action, target) ∧
      before.getLast? = some (.ofEvent (.started action target)) ∧
      (after.head? = some (.ofEvent (.finished action target)) ↔
        here.isSuccess = true) ∧
      (action.isTolerated = true → here.isSuccess = false →
        ∃ warning late, after = .ofEvent (.degraded warning) :: late ∧
          ∀ another, late.head? ≠ some (.ofEvent (.degraded another)))
  /-- Nothing else is announced to begin. -/
  started : ∀ action target, here = .ofEvent (.started action target) →
    action ≠ .writeSecrets →
    ∃ invocation options reply late,
      after = ⟨.run invocation options, reply⟩ :: late ∧
      call.step? invocation = some (action, target)
  /-- Nothing else is announced to be done. -/
  finished : ∀ action target, here = .ofEvent (.finished action target) →
    action ≠ .writeSecrets →
    ∃ invocation options reply,
      before.getLast? = some ⟨.run invocation options, reply⟩ ∧
      call.step? invocation = some (action, target) ∧
      Exchange.isSuccess ⟨.run invocation options, reply⟩ = true

/-! ## Brackets -/

theorem heard_append (early late : List Exchange) :
    heard (early ++ late) = heard early ++ heard late :=
  List.filter_append ..

theorem heard_eq_nil {trace : List Exchange}
    (unheard : ∀ exchange ∈ trace, exchange.request.isHeard = false) :
    heard trace = [] := by
  simpa [heard] using unheard

/-- A warning, if there is one. -/
def degradation (warning? : Option Warning) : List Exchange :=
  warning?.toList.map fun warning => .ofEvent (.degraded warning)

/-- The smallest parts of a trace, and the failure if one of them is the writing
of the secret in vain.  A warning can come after a deed, even one that is about
something else. -/
inductive Bracket (config : Config) (call : Call) :
    List Exchange → Option Failure → Prop where
  | silent {exchange : Exchange} (unheard : exchange.request.isHeard = false) :
      Bracket config call [exchange] none
  | query {invocation : Invocation} {options : RunOptions}
      {reply : Except SystemError CommandOutput}
      (noDeed : invocation.isDeed = false) :
      Bracket config call [⟨.run invocation options, reply⟩] none
  | done {action : Action} {target : String} {invocation : Invocation}
      {options : RunOptions}
      {reply : Except SystemError CommandOutput} {tail : List Exchange}
      (warning? : Option Warning)
      (isStep : call.step? invocation = some (action, target))
      (succeeds : Exchange.isSuccess ⟨.run invocation options, reply⟩ = true)
      (warns : heard tail = degradation warning?) :
      Bracket config call (.ofEvent (.started action target) ::
        ⟨.run invocation options, reply⟩ ::
          .ofEvent (.finished action target) :: tail) none
  | failed {action : Action} {target : String} {invocation : Invocation}
      {options : RunOptions}
      {reply : Except SystemError CommandOutput} {tail : List Exchange}
      (warning? : Option Warning)
      (isStep : call.step? invocation = some (action, target))
      (fails : Exchange.isSuccess ⟨.run invocation options, reply⟩ = false)
      (warns : heard tail = degradation warning?)
      (isTold : action.isTolerated = true → warning? ≠ none) :
      Bracket config call (.ofEvent (.started action target) ::
        ⟨.run invocation options, reply⟩ :: tail) none
  | secret {exchanges : List Exchange} {failure? : Option Failure}
      (write : AnnouncedWrite config exchanges failure?) :
      Bracket config call exchanges failure?

/-- A trace consists of brackets, and a secret written in vain is the last of
them. -/
inductive Bracketed (config : Config) (call : Call) :
    List Exchange → Option Failure → Prop where
  | nil {failure? : Option Failure} : Bracketed config call [] failure?
  | cons {bracket late : List Exchange} {failure? : Option Failure}
      (first : Bracket config call bracket none)
      (rest : Bracketed config call late failure?) :
      Bracketed config call (bracket ++ late) failure?
  | last {bracket : List Exchange} {failure : Failure}
      (unwritten : Bracket config call bracket (some failure)) :
      Bracketed config call bracket (some failure)

/-- Whether a list does not begin with the end of something. -/
def Opens (late : List Exchange) : Prop :=
  ∀ exchange, late.head? = some exchange → exchange.isClosing = false

section Bracketed

variable {config : Config} {call : Call} {early late bracket : List Exchange}
  {failure? : Option Failure}

theorem Bracket.bracketed (isBracket : Bracket config call bracket none) :
    Bracketed config call bracket failure? := by
  simpa using Bracketed.cons isBracket .nil

theorem Bracketed.of_done {action : Action} {target : String}
    {invocation : Invocation} {options : RunOptions}
    {reply : Except SystemError CommandOutput}
    (isStep : call.step? invocation = some (action, target))
    (succeeds : Exchange.isSuccess ⟨.run invocation options, reply⟩ = true) :
    Bracketed config call [.ofEvent (.started action target),
      ⟨.run invocation options, reply⟩,
      .ofEvent (.finished action target)] failure? :=
  (Bracket.done none isStep succeeds rfl).bracketed

theorem Bracketed.of_failed {action : Action} {target : String}
    {invocation : Invocation} {options : RunOptions}
    {reply : Except SystemError CommandOutput}
    (isStep : call.step? invocation = some (action, target))
    (fails : Exchange.isSuccess ⟨.run invocation options, reply⟩ = false)
    (mayStop : action.isTolerated = false) :
    Bracketed config call [.ofEvent (.started action target),
      ⟨.run invocation options, reply⟩]
      failure? :=
  (Bracket.failed none isStep fails rfl (by simp [mayStop])).bracketed

theorem Bracketed.append {first? : Option Failure}
    (first : Bracketed config call early first?) (goesOn : first? = none)
    (second : Bracketed config call late failure?) :
    Bracketed config call (early ++ late) failure? := by
  induction first with
  | nil => exact second
  | cons bracket rest ih =>
      rw [List.append_assoc]
      exact .cons bracket (ih goesOn)
  | last unwritten => cases goesOn

theorem AnnouncedWrite.heard_cases
    (write : AnnouncedWrite config bracket failure?) :
    heard bracket = [.ofEvent (.started .writeSecrets config.secretPath.text)] ∨
      ∃ notices, (notices = [] ∨
        ∃ message, notices = [.ofEvent (.notice message)]) ∧
        heard bracket = .ofEvent
          (.started .writeSecrets config.secretPath.text) ::
          (notices ++
            [.ofEvent (.finished .writeSecrets config.secretPath.text)]) := by
  have unheard {exchanges : List Exchange} {own? : Option Failure}
      (write : SecretWrite config.sourcePath config.secretPath
          config.namespaceName exchanges own?) :
      heard exchanges = [] := by
    apply heard_eq_nil
    intro exchange member
    obtain ⟨asked, reply, rfl⟩ := write.exchange_eq member
    rfl
  cases write with
  | unwritten write => exact .inl (congrArg (_ :: ·) (unheard write))
  | @written exchanges notices write noticed =>
      refine .inr ⟨notices, noticed, congrArg (_ :: ·) ?_⟩
      have allHeard : heard notices = notices := by
        rcases noticed with rfl | ⟨message, rfl⟩
        · rfl
        · rfl
      show heard (exchanges ++ (notices ++ _)) = _
      rw [heard_append, unheard write, List.nil_append, heard_append, allHeard]
      rfl

theorem Bracket.opens (isBracket : Bracket config call bracket failure?)
    (opens : Opens late) :
    Opens (heard bracket ++ late) := by
  cases isBracket with
  | silent unheard =>
      rw [heard_eq_nil (by simpa using unheard)]
      exact opens
  | secret write =>
      rcases write.heard_cases with heard_eq | ⟨notices, -, heard_eq⟩
      · rw [heard_eq]
        rintro exchange ⟨⟩
        rfl
      · rw [heard_eq]
        rintro exchange ⟨⟩
        rfl
  | _ =>
      rintro exchange ⟨⟩
      rfl

theorem Bracketed.opens (bracketed : Bracketed config call early failure?)
    (opens : Opens late) :
    Opens (heard early ++ late) := by
  induction bracketed with
  | nil => exact opens
  | cons bracket rest ih =>
      rw [heard_append, List.append_assoc]
      exact bracket.opens ih
  | last unwritten => exact unwritten.opens opens

end Bracketed

/-! ## From brackets to places -/

/-- What holds at each place of a list, with what comes before and after the
list. -/
def AtEach (holds : List Exchange → Exchange → List Exchange → Prop)
    (before : List Exchange) :
    List Exchange → List Exchange → Prop
  | [], _ => True
  | here :: late, after =>
    holds before here (late ++ after) ∧
      AtEach holds (before ++ [here]) late after

section AtEach

variable {holds : List Exchange → Exchange → List Exchange → Prop}
  {before early late after : List Exchange}

theorem AtEach.append (first : AtEach holds before early (late ++ after))
    (second : AtEach holds (before ++ early) late after) :
    AtEach holds before (early ++ late) after := by
  induction early generalizing before with
  | nil => simpa using second
  | cons here early ih =>
      refine ⟨?_, ih first.2 (by simpa using second)⟩
      simpa using first.1

theorem AtEach.at {here : Exchange}
    (each : AtEach holds before (early ++ here :: late) after) :
    holds (before ++ early) here (late ++ after) := by
  induction early generalizing before with
  | nil => simpa using each.1
  | cons other early ih => simpa using ih each.2

end AtEach

section Places

variable {call : Call} {before after : List Exchange} {action : Action}
  {target : String}
  {invocation : Invocation} {options : RunOptions}
  {reply : Except SystemError CommandOutput}

theorem Told.of_other {here : Exchange}
    (noDeed : ∀ invocation options reply,
      here = ⟨.run invocation options, reply⟩ →
      invocation.isDeed = false)
    (noStart : ∀ action target, here = .ofEvent (.started action target) →
      action = .writeSecrets)
    (noFinish : ∀ action target, here = .ofEvent (.finished action target) →
      action = .writeSecrets) :
    Told call before here after where
  deed invocation options reply same isDeed := by
    simp [noDeed invocation options reply same] at isDeed
  started action target same isOther :=
    absurd (noStart action target same) isOther
  finished action target same isOther :=
    absurd (noFinish action target same) isOther

theorem Told.of_started
    (isStep : call.step? invocation = some (action, target)) :
    Told call before (.ofEvent (.started action target))
      (⟨.run invocation options, reply⟩ :: after) where
  deed := nofun
  started _ _ same _ := by
    cases same
    exact ⟨invocation, options, reply, after, rfl, isStep⟩
  finished := nofun

theorem Told.of_finished
    (isStep : call.step? invocation = some (action, target))
    (succeeds : Exchange.isSuccess ⟨.run invocation options, reply⟩ = true)
    (isLast : before.getLast? = some ⟨.run invocation options, reply⟩) :
    Told call before (.ofEvent (.finished action target)) after where
  deed := nofun
  started := nofun
  finished _ _ same _ := by
    cases same
    exact ⟨invocation, options, reply, isLast, isStep, succeeds⟩

theorem Told.of_event {event : Event} (noStart : ∀ action target,
      event = .started action target → action = .writeSecrets)
    (noFinish : ∀ action target, event = .finished action target →
      action = .writeSecrets) :
    Told call before (.ofEvent event) after := by
  apply Told.of_other
  · intro invocation options reply same
    cases same
  · intro action target same
    cases same
    exact noStart action target rfl
  · intro action target same
    cases same
    exact noFinish action target rfl

theorem Told.of_secretStarted (target : String) :
    Told call before (.ofEvent (.started .writeSecrets target)) after :=
  .of_event (by simp) (by simp)

theorem Told.of_secretFinished (target : String) :
    Told call before (.ofEvent (.finished .writeSecrets target)) after :=
  .of_event (by simp) (by simp)

end Places

section Each

variable {config : Config} {call : Call} {before trace after : List Exchange}
  {failure? : Option Failure}

theorem Opens.ne (opens : Opens after) {event : Event}
    (isClosing : (Exchange.ofEvent event).isClosing = true) :
    after.head? ≠ some (.ofEvent event) := by
  intro head
  simp [opens _ head] at isClosing

theorem each_degradation (warning? : Option Warning) :
    AtEach (Told call) before (degradation warning?) after := by
  cases warning? with
  | none => trivial
  | some warning => exact ⟨.of_event (by simp) (by simp), trivial⟩

theorem Bracket.each (isBracket : Bracket config call trace failure?)
    (opens : Opens after) :
    AtEach (Told call) before (heard trace) after := by
  cases isBracket with
  | silent unheard =>
      rw [heard_eq_nil (by simpa using unheard)]
      trivial
  | query noDeed =>
      refine ⟨.of_other ?_ nofun nofun, trivial⟩
      intro invocation options reply same
      cases same
      exact noDeed
  | @done action target invocation options reply tail warning? isStep succeeds
    warns =>
      show AtEach (Told call) before (_ :: _ :: _ :: heard tail) after
      rw [warns]
      refine ⟨.of_started isStep, ⟨?_, nofun, nofun⟩,
        .of_finished isStep succeeds (by simp),
        each_degradation warning?⟩
      intro invocation options reply same isDeed
      cases same
      exact ⟨_, _, isStep, by simp, by simp [succeeds], by simp [succeeds]⟩
  | @failed action target invocation options reply tail warning? isStep fails
    warns isTold =>
      show AtEach (Told call) before (_ :: _ :: heard tail) after
      rw [warns]
      refine ⟨.of_started isStep, ⟨?_, nofun, nofun⟩, each_degradation warning?⟩
      intro invocation options reply same isDeed
      cases same
      refine ⟨_, _, isStep, by simp, ?_, ?_⟩
      · cases warning? with
        | none => simpa [degradation, fails] using opens.ne rfl
        | some warning => simp [degradation, fails]
      · intro isTolerated _
        cases warning? with
        | none => exact absurd rfl (isTold isTolerated)
        | some warning =>
          exact ⟨warning, after, rfl, fun another => opens.ne rfl⟩
  | secret write =>
      rcases write.heard_cases with heard_eq | ⟨notices, noticed, heard_eq⟩
      · rw [heard_eq]
        exact ⟨.of_secretStarted _, trivial⟩
      · rw [heard_eq]
        rcases noticed with rfl | ⟨message, rfl⟩
        · exact ⟨.of_secretStarted _, .of_secretFinished _, trivial⟩
        · exact ⟨.of_secretStarted _, .of_event (by simp) (by simp),
            .of_secretFinished _, trivial⟩

theorem Bracketed.each (bracketed : Bracketed config call trace failure?)
    (opens : Opens after) :
    AtEach (Told call) before (heard trace) after := by
  induction bracketed generalizing before with
  | nil => trivial
  | cons first rest ih =>
      rw [heard_append]
      exact (first.each (rest.opens opens)).append ih
  | last unwritten => exact unwritten.each opens

end Each

/-! ## The writing of the secret -/

/-- Whether it is announced that the secret is being written or has been. -/
def Exchange.isSecretEvent : Exchange → Bool
  | ⟨.announce (.started .writeSecrets _), _⟩ => true
  | ⟨.announce (.finished .writeSecrets _), _⟩ => true
  | _ => false

/-- The writing of the secret is announced as a whole: from its start the trace
goes on with all of it, and where it is done the trace ends with all of it. -/
structure SecretsTold (config : Config) (trace : List Exchange)
    (failure? : Option Failure) :
    Prop where
  started : ∀ early target late, trace = early ++
    .ofEvent (.started .writeSecrets target) :: late →
    ∃ exchanges own? back, .ofEvent (.started .writeSecrets target) ::
      late = exchanges ++ back ∧
      AnnouncedWrite config exchanges own? ∧
      (own? ≠ none → back = [] ∧ failure? = own?)
  finished : ∀ early target late,
    trace = early ++ .ofEvent (.finished .writeSecrets target) :: late →
    ∃ front exchanges, early ++ [.ofEvent (.finished .writeSecrets target)] =
      front ++ exchanges ∧
      AnnouncedWrite config exchanges none

section Secrets

variable {config : Config} {call : Call} {trace early late : List Exchange}
  {failure? : Option Failure}

theorem SecretsTold.of_none
    (noEvent : ∀ exchange ∈ trace, exchange.isSecretEvent = false) :
    SecretsTold config trace failure? where
  started early target late split := by
    have isEvent := noEvent _ (split ▸ List.mem_append_cons_self)
    cases isEvent
  finished early target late split := by
    have isEvent := noEvent _ (split ▸ List.mem_append_cons_self)
    cases isEvent

theorem SecretsTold.append (first : SecretsTold config early none)
    (second : SecretsTold config late failure?) :
    SecretsTold config (early ++ late) failure? where
  started before target after split := by
    rcases split_append split with ⟨middle, inFirst, rfl⟩ |
      ⟨middle, rfl, inSecond⟩
    · obtain ⟨exchanges, own?, back, parts, write, stops⟩ :=
        first.started _ _ _ inFirst
      refine ⟨exchanges, own?, back ++ late, ?_, write, fun failed => ?_⟩
      · rw [← List.cons_append, parts, List.append_assoc]
      · exact absurd (stops failed).2.symm failed
    · exact second.started _ _ _ inSecond
  finished before target after split := by
    rcases split_append split with ⟨middle, inFirst, rfl⟩ |
      ⟨middle, rfl, inSecond⟩
    · exact first.finished _ _ _ inFirst
    · obtain ⟨front, exchanges, parts, write⟩ := second.finished _ _ _ inSecond
      exact ⟨early ++ front, exchanges,
        by rw [List.append_assoc, parts, List.append_assoc], write⟩

theorem Exchange.not_isSecretEvent {exchange : Exchange}
    (unheard : exchange.request.isHeard = false) :
    exchange.isSecretEvent = false := by
  obtain ⟨request, reply⟩ := exchange
  cases request with
  | announce => cases unheard
  | _ => rfl

theorem SecretWrite.not_isSecretEvent {source target : Path}
    {namespaceName : String} {exchange : Exchange}
    (write : SecretWrite source target namespaceName trace failure?)
    (member : exchange ∈ trace) : exchange.isSecretEvent = false := by
  obtain ⟨asked, reply, rfl⟩ := write.exchange_eq member
  rfl

/-- The first announcement that the secret is being written begins the whole of
it. -/
theorem AnnouncedWrite.started (write : AnnouncedWrite config trace failure?)
    {rest : List Exchange} (parts : trace =
      .ofEvent (.started .writeSecrets config.secretPath.text) :: rest)
    (noStart : ∀ target, .ofEvent (.started .writeSecrets target) ∉ rest)
    {target : String} (split : trace = early ++
      .ofEvent (.started .writeSecrets target) :: late) :
    ∃ exchanges own? back, .ofEvent (.started .writeSecrets target) ::
      late = exchanges ++ back ∧
      AnnouncedWrite config exchanges own? ∧
      (own? ≠ none → back = [] ∧ failure? = own?) := by
  cases early with
  | nil =>
    exact ⟨trace, failure?, [], by simp [split], write, fun _ => ⟨rfl, rfl⟩⟩
  | cons other early =>
      obtain ⟨-, inRest⟩ := List.cons.inj (parts.symm.trans split)
      exact absurd (inRest ▸ List.mem_append_cons_self) (noStart target)

/-- The last announcement that the secret has been written ends the whole of
it. -/
theorem AnnouncedWrite.finished (write : AnnouncedWrite config trace none)
    {front : List Exchange} {own : String}
    (parts : trace = front ++ [.ofEvent (.finished .writeSecrets own)])
    (noFinish : ∀ target, .ofEvent (.finished .writeSecrets target) ∉ front)
    {target : String} (split : trace = early ++
      .ofEvent (.finished .writeSecrets target) :: late) :
    ∃ front exchanges, early ++ [.ofEvent (.finished .writeSecrets target)] =
      front ++ exchanges ∧
      AnnouncedWrite config exchanges none := by
  rcases split_append (parts.symm.trans split) with ⟨middle, inFront, -⟩ |
    ⟨middle, rfl, isLast⟩
  · exact absurd (inFront ▸ List.mem_append_cons_self) (noFinish target)
  · cases middle with
    | nil =>
        obtain ⟨same, -⟩ := List.cons.inj isLast
        exact ⟨[], trace, by simp [parts, same], write⟩
    | cons other middle => simp at isLast

theorem AnnouncedWrite.secretsTold
    (write : AnnouncedWrite config trace failure?) :
    SecretsTold config trace failure? := by
  have whole := write
  cases write with
  | @unwritten exchanges failure write =>
      refine ⟨fun early target late => whole.started rfl ?_, ?_⟩
      · intro target member
        cases write.not_isSecretEvent member
      · intro early target late split
        have member := split ▸ List.mem_append_right early (.head late)
        rcases List.mem_cons.mp member with same | inWrite
        · cases same
        · cases write.not_isSecretEvent inWrite
  | @written exchanges notices write noticed =>
      have quiet : ∀ exchange ∈ exchanges ++ notices,
          exchange.isSecretEvent = false := by
        intro exchange member
        rcases List.mem_append.mp member with inWrite | inNotices
        · exact write.not_isSecretEvent inWrite
        · rcases noticed with rfl | ⟨message, rfl⟩
          · cases inNotices
          · cases List.mem_singleton.mp inNotices
            rfl
      rw [← List.append_assoc] at whole ⊢
      refine ⟨fun early target late => whole.started rfl ?_,
        fun early target late => whole.finished List.cons_append.symm ?_⟩
      · intro target member
        rcases List.mem_append.mp member with inside | isLast
        · cases quiet _ inside
        · cases List.mem_singleton.mp isLast
      · intro target member
        rcases List.mem_cons.mp member with same | inside
        · cases same
        · cases quiet _ inside

theorem Call.step?_ne {invocation : Invocation} {action : Action}
    {target : String} (isStep : call.step? invocation = some (action, target)) :
    action ≠ .writeSecrets := by
  rintro rfl
  unfold step? at isStep
  split at isStep
  case h_4 =>
    split at isStep
    · cases isStep
    · cases isStep
  all_goals cases isStep

theorem Action.not_isSecretEvent {action : Action}
    (isOther : action ≠ .writeSecrets) (target : String) :
    (Exchange.ofEvent (.started action target)).isSecretEvent = false ∧
      (Exchange.ofEvent (.finished action target)).isSecretEvent = false := by
  cases action with
  | writeSecrets => exact absurd rfl isOther
  | _ => exact ⟨rfl, rfl⟩

theorem not_isSecretEvent_of_degradation {warning? : Option Warning}
    (warns : heard trace = degradation warning?) {exchange : Exchange}
    (member : exchange ∈ trace) : exchange.isSecretEvent = false := by
  cases isHeard : exchange.request.isHeard with
  | false => exact Exchange.not_isSecretEvent isHeard
  | true =>
      have inHeard : exchange ∈ heard trace :=
        List.mem_filter.mpr ⟨member, isHeard⟩
      rw [warns] at inHeard
      obtain ⟨warning, -, rfl⟩ := List.mem_map.mp inHeard
      rfl

theorem Bracket.secretsTold (isBracket : Bracket config call trace failure?) :
    SecretsTold config trace failure? := by
  cases isBracket with
  | silent unheard =>
      apply SecretsTold.of_none
      intro exchange member
      cases List.mem_singleton.mp member
      exact Exchange.not_isSecretEvent unheard
  | query noDeed => exact .of_none (by simp [Exchange.isSecretEvent])
  | @done _ target _ _ _ tail warning? isStep succeeds warns =>
      have events := Action.not_isSecretEvent (Call.step?_ne isStep) target
      apply SecretsTold.of_none
      intro exchange member
      rcases List.mem_cons.mp member with rfl | member
      · exact events.1
      rcases List.mem_cons.mp member with rfl | member
      · rfl
      rcases List.mem_cons.mp member with rfl | inTail
      · exact events.2
      · exact not_isSecretEvent_of_degradation warns inTail
  | @failed _ target _ _ _ tail warning? isStep fails warns isTold =>
      have events := Action.not_isSecretEvent (Call.step?_ne isStep) target
      apply SecretsTold.of_none
      intro exchange member
      rcases List.mem_cons.mp member with rfl | member
      · exact events.1
      rcases List.mem_cons.mp member with rfl | inTail
      · rfl
      · exact not_isSecretEvent_of_degradation warns inTail
  | secret write => exact write.secretsTold

theorem Bracketed.secretsTold
    (bracketed : Bracketed config call trace failure?) :
    SecretsTold config trace failure? := by
  induction bracketed with
  | nil => exact .of_none nofun
  | cons first rest ih => exact first.secretsTold.append ih
  | last unwritten => exact unwritten.secretsTold

end Secrets

/-! ## Telling the truth -/

/-- What it means that whoever listens is told the truth about an operation,
when `beyond` is heard after it. -/
structure ToldTruly (config : Config) (call : Call) (trace : List Exchange)
    (failure? : Option Failure) (beyond : List Exchange) : Prop where
  everywhere : ∀ early here late, heard trace = early ++ here :: late →
    Told call early here (late ++ beyond)
  secrets : SecretsTold config trace failure?

theorem Bracketed.toldTruly {config : Config} {call : Call}
    {trace beyond : List Exchange} {failure? : Option Failure}
    (bracketed : Bracketed config call trace failure?) (opens : Opens beyond) :
    ToldTruly config call trace failure? beyond where
  everywhere early here late places := by
    have each : AtEach (Told call) [] (heard trace) beyond :=
      bracketed.each opens
    rw [places] at each
    exact each.at
  secrets := bracketed.secretsTold

end ClusterConsole
