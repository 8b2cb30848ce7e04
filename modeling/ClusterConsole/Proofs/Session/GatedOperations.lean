import ClusterConsole.Proofs.Session.Consent

/-!
# Every operation asks for consent

All that an operation does without asking for consent needs none, and what it
does afterwards is what consent was asked for.  So consent means in every
session what it is supposed to mean.
-/

namespace ClusterConsole

/-- Whether a request asks for no consent and deletes no cluster. -/
def Request.deletesNothing : Request → Bool
  | .run invocation _ => !invocation.deletesCluster
  | .confirm _ _ => false
  | _ => true

theorem Exchange.only_of_deletesNothing {exchange : Exchange}
    (deletesNothing : exchange.request.deletesNothing = true) :
    exchange.isDeletion = false ∧ exchange.isRefusal = false := by
  obtain ⟨request, reply⟩ := exchange
  cases request with
  | run invocation options =>
      have none : invocation.deletesCluster = false := by
        simpa [Request.deletesNothing] using deletesNothing
      exact ⟨none, rfl⟩
  | confirm => cases deletesNothing
  | _ => exact ⟨rfl, rfl⟩

namespace Operation

/-- Whatever the replies are, each request asks for no consent and needs
none. -/
abbrev IsHarmless (operation : Operation α) : Prop :=
  AsksOnly (fun request => request.isHarmless = true) operation

theorem Quiet.isHarmless {operation : Operation α} (quiet : Quiet operation) :
    IsHarmless operation :=
  AsksOnly.mono quiet Request.isHarmless_of_isQuiet

/-- Whatever the replies are, nothing is asked of the operator and the outcome
is not a declined one. -/
def Completes (operation : Operation Outcome) : Prop :=
  Ensures operation fun trace result =>
    Harmless trace ∧ ∀ outcome, result = .ok outcome →
      outcome.isDeclined = false

section Completing

variable {first : Operation α} {next : α → Operation Outcome}

theorem completes_pure {outcome : Outcome}
    (isCarriedOut : outcome.isDeclined = false) :
    Completes (pure outcome) :=
  ensures_pure ⟨by simp [Harmless], fun _ same => by
    cases same; exact isCarriedOut⟩

theorem completes_throw (failure : Failure) : Completes (throw failure) :=
  ensures_throw ⟨by simp [Harmless], fun _ same => by cases same⟩

theorem completes_bind (harmless : IsHarmless first)
    (rest : ∀ value, Completes (next value)) :
    Completes (first >>= next) := by
  apply Ensures.bind harmless
  · intro trace failure early
    exact ⟨early, fun _ same => by cases same⟩
  · intro trace value early
    apply Ensures.mono (rest value)
    rintro later result ⟨late, carriedOut⟩
    exact ⟨Harmless.append early late, carriedOut⟩

end Completing

theorem completes_degrade {outcome : Outcome} (warning : Warning)
    (isCarriedOut : outcome.isDeclined = false) :
    Completes (degrade outcome warning) :=
  completes_bind (asksOnly_announce rfl) fun _ => completes_pure isCarriedOut

theorem isHarmless_wait (config : Config) (probe : Probe) :
    IsHarmless (wait config probe) := by
  have timedOut : IsHarmless (wait.timedOut probe) :=
    asksOnly_bind (asksOnly_announce rfl) fun _ => asksOnly_pure _
  have invoked : IsHarmless (invoke (config.waitCommand probe) .unchecked) :=
    (quiet_invoke rfl).isHarmless
  apply asksOnly_bind (quiet_announce rfl).isHarmless
  intro _
  apply asksOnly_bind (asksOnly_result invoked)
  intro result
  cases result with
  | error failure => exact timedOut
  | ok output =>
      by_cases ready : output.isSuccess = true
      · have told :
            IsHarmless (announce (.finished .waitReady probe.selector)) :=
          asksOnly_announce rfl
        simpa [ready] using asksOnly_bind told fun _ =>
          asksOnly_pure Readiness.ready
      · simpa [ready] using timedOut

theorem completes_awaitReady (config : Config) (probe : Probe)
    {outcome : Outcome} (isCarriedOut : outcome.isDeclined = false) :
    Completes (awaitReady config probe outcome) := by
  apply completes_bind (isHarmless_wait config probe)
  intro readiness
  cases readiness with
  | ready => exact completes_pure isCarriedOut
  | timedOut => exact completes_pure isCarriedOut

theorem completes_installBaseline (config : Config) :
    Completes (installBaseline config .completed) := by
  apply completes_bind (asksOnly_announce rfl)
  intro _
  have invoked : IsHarmless (invoke config.ingressCommand .checked) :=
    (quiet_invoke rfl).isHarmless
  apply completes_bind (asksOnly_result invoked)
  intro result
  cases result with
  | error failure => exact completes_degrade _ rfl
  | ok output =>
      exact completes_bind (asksOnly_announce rfl) fun _ =>
        completes_awaitReady config _ rfl

theorem completes_setUpCluster (config : Config) :
    Completes (setUpCluster config) :=
  completes_bind (quiet_step rfl).isHarmless fun _ =>
    completes_installBaseline config

theorem completes_deployInfrastructure (config : Config) :
    Completes (deployInfrastructure config) := by
  apply completes_bind (quiet_ensureNamespace config).isHarmless
  intro _
  apply completes_bind (quiet_applyManifest config _).isHarmless
  intro _
  apply completes_bind (quiet_settle config).isHarmless
  intro _
  apply completes_bind (quiet_applyManifest config _).isHarmless
  intro _
  apply completes_bind (quiet_materializeSecret config).isHarmless
  intro _
  apply completes_bind (quiet_applyManifest config _).isHarmless
  intro _
  apply completes_bind (quiet_applyManifest config _).isHarmless
  intro _
  exact completes_awaitReady config _ rfl

theorem completes_deployServices (config : Config) :
    Completes (deployServices config) :=
  completes_bind (quiet_applyManifest config _).isHarmless fun _ =>
    completes_bind (quiet_applyManifest config _).isHarmless fun _ =>
      completes_pure rfl

theorem completes_deployService (config : Config) (service : Service) :
    Completes (deployService config service) := by
  apply completes_bind (asksOnly_request rfl)
  intro isThere
  cases isThere with
  | false => exact completes_degrade _ rfl
  | true =>
      apply completes_bind (quiet_applyManifest config _).isHarmless
      intro _
      apply completes_bind (quiet_restartService config service.name).isHarmless
      intro _
      exact completes_pure rfl

/-- What is folded in was carried out, and so is the whole. -/
theorem completes_ship (config : Config) (query : String) :
    Completes (ship config query) := by
  unfold ship
  cases config.roster.resolve? query with
  | none => exact completes_throw _
  | some service =>
      apply completes_bind
        (quiet_continueBatch config .empty [service]).isHarmless
      intro report
      apply Ensures.bind (completes_deployService config service)
      · intro trace failure completes
        exact ⟨completes.1, fun _ same => by cases same⟩
      · rintro trace deployed ⟨harmless, carriedOut⟩
        have part : deployed.isDeclined = false := carriedOut deployed rfl
        refine ensures_pure ⟨by simpa using harmless, ?_⟩
        intro outcome same
        cases same
        simpa [Outcome.isDeclined, Outcome.absorb, Outcome.recordImages,
          Outcome.completed] using part

/-! ## After consent -/

/-- One deletion among exchanges that need no consent. -/
theorem agreed_deletion {call : Call}
    {early late : List Exchange} {deletion : Exchange}
    (mayDelete : call = .undertake .bootstrap ∨ call = .undertake .teardown)
    (harmlessEarly : Harmless early) (harmlessLate : Harmless late)
    (noRefusal : deletion.isRefusal = false)
    (noRestart : deletion.isBulkRestart = false) :
    Agreed call (early ++ deletion :: late) where
  refusals := by
    intro exchange member
    rcases List.mem_append.mp member with inEarly | inRest
    · exact Harmless.not_isRefusal (harmlessEarly exchange inEarly)
    · rcases List.mem_cons.mp inRest with rfl | inLate
      · exact noRefusal
      · exact Harmless.not_isRefusal (harmlessLate exchange inLate)
  deletion_call := fun _ _ _ => mayDelete
  restart_call := by
    intro exchange member restarts
    rcases List.mem_append.mp member with inEarly | inRest
    · simp [Harmless.not_isBulkRestart (harmlessEarly exchange inEarly)]
        at restarts
    · rcases List.mem_cons.mp inRest with rfl | inLate
      · simp [noRestart] at restarts
      · simp [Harmless.not_isBulkRestart (harmlessLate exchange inLate)]
          at restarts
  deletions_le_one := by
    have before := Harmless.countP_isDeletion harmlessEarly
    have after := Harmless.countP_isDeletion harmlessLate
    simp only [List.countP_append, List.countP_cons, before, after]
    cases deletion.isDeletion with
    | false => simp
    | true => simp

/-- Deleting the cluster, and going on with what needs no consent. -/
theorem agreed_deleteCluster (config : Config)
    {call : Call} (next : Unit → Operation Outcome)
    (mayDelete : call = .undertake .bootstrap ∨ call = .undertake .teardown)
    (rest : Completes (next ())) :
    Ensures (deleteCluster config >>= next) fun late result =>
      Agreed call late ∧ ∀ outcome, result = .ok outcome →
      outcome.isDeclined = false := by
  have started : Harmless
      [⟨.announce (.started .deleteCluster config.cluster.name), ()⟩] := by
    simp [Harmless, Request.isHarmless]
  have noRestart : config.deleteCommand.restartsAll = false := rfl
  apply ensures_bind
  apply ensures_step
  · intro reply failure _
    have nothing : Harmless [] := by simp [Harmless]
    exact ⟨agreed_deletion mayDelete started nothing rfl noRestart,
      fun _ same => by cases same⟩
  · intro reply output _
    apply Ensures.mono rest
    rintro late result ⟨harmless, carriedOut⟩
    have harmlessLate : Harmless
        (⟨.announce (.finished .deleteCluster config.cluster.name), ()⟩ ::
          late) := by
      simpa [Harmless, Request.isHarmless] using harmless
    exact ⟨agreed_deletion mayDelete started harmlessLate rfl noRestart,
      carriedOut⟩

theorem agreed_restartAll (config : Config) :
    Ensures (restartAll config) fun late _ =>
      Agreed (.undertake .applyConfig) late := by
  have deletesNothing : AsksOnly (fun request => request.deletesNothing = true)
      (restartAll config) :=
    asksOnly_bind (asksOnly_step rfl rfl rfl) fun _ => asksOnly_step rfl rfl rfl
  apply Ensures.mono deletesNothing
  intro late result holds
  have only : ∀ exchange ∈ late, exchange.isDeletion = false ∧
      exchange.isRefusal = false :=
    fun exchange member =>
      Exchange.only_of_deletesNothing (holds exchange member)
  have noDeletion : late.countP Exchange.isDeletion = 0 :=
    List.countP_eq_zero.mpr fun exchange member => by
      simp [only exchange member]
  exact ⟨fun exchange member => (only exchange member).2,
    fun exchange member deletes => by simp [only exchange member] at deletes,
    fun _ _ _ => rfl, by omega⟩

/-! ## Asking once -/

/-- Whatever the replies are, an operation goes on after `early` in such a way
that consent is asked for at most once in all. -/
def AsksOnceAfter (config : Config) (undertaking : Undertaking)
    (early : List Exchange) (operation : Operation Outcome) : Prop :=
  Ensures operation fun trace result =>
    AsksOnce config (.undertake undertaking) (early ++ trace)
      (Call.declined (.undertake undertaking) result)

section Asking

variable {config : Config} {undertaking : Undertaking} {early : List Exchange}

theorem declined_eq_false {result : Except Failure Outcome}
    (carriedOut : ∀ outcome, result = .ok outcome →
      outcome.isDeclined = false) :
    Call.declined (.undertake undertaking) result = false := by
  cases result with
  | error failure => rfl
  | ok outcome => exact carriedOut outcome rfl

theorem Completes.asksOnceAfter {operation : Operation Outcome}
    (completes : Completes operation) (harmless : Harmless early) :
    AsksOnceAfter config undertaking early operation := by
  apply Ensures.mono completes
  rintro trace result ⟨harmlessTrace, carriedOut⟩
  rw [declined_eq_false carriedOut]
  exact .never (harmless.append harmlessTrace)

theorem asksOnceAfter_bind {first : Operation α} {next : α → Operation Outcome}
    (harmless : Harmless early) (isHarmless : IsHarmless first)
    (rest : ∀ trace value, Harmless (early ++ trace) →
      AsksOnceAfter config undertaking (early ++ trace) (next value)) :
    AsksOnceAfter config undertaking early (first >>= next) := by
  apply Ensures.bind isHarmless
  · intro trace failure harmlessTrace
    exact .never (harmless.append harmlessTrace)
  · intro trace value harmlessTrace
    have goesOn := rest trace value (harmless.append harmlessTrace)
    simpa [AsksOnceAfter, List.append_assoc] using goesOn

/-- Asking for consent: without it there is an end, and with it comes what it
was asked for. -/
theorem asksOnceAfter_consent {question : String}
    {next : Bool → Operation Outcome}
    {outcome : Outcome} (harmless : Harmless early)
    (prelude : Prelude config (.undertake undertaking) early)
    (agreed : Ensures (next true) fun late result =>
      Agreed (.undertake undertaking) late ∧
        ∀ outcome, result = .ok outcome → outcome.isDeclined = false)
    (refused : next false = pure outcome) :
    AsksOnceAfter config undertaking early (consent question >>= next) := by
  apply ensures_consent
  · intro reason
    exact .refused harmless prelude rfl
  · intro answer
    cases answer with
    | false =>
        rw [refused]
        exact ensures_pure (.refused harmless prelude rfl)
    | true =>
        apply Ensures.mono agreed
        rintro late result ⟨agreed, carriedOut⟩
        rw [declined_eq_false carriedOut]
        exact .consented harmless rfl agreed

end Asking

theorem asksOnceAfter_bootstrap (config : Config) :
    AsksOnceAfter config .bootstrap [] (bootstrap config) := by
  have listed (reply : Except SystemError CommandOutput) :
      Harmless [⟨.run config.listCommand .captured, reply⟩] := by
    intro exchange member
    cases List.mem_singleton.mp member
    rfl
  apply ensures_bind
  apply ensures_bind
  apply ensures_invoke
  intro reply
  cases config.listCommand.result .captured reply with
  | error failure => exact .never (listed reply)
  | ok output =>
      apply ensures_pure
      -- From here on the listing is what comes before consent.
      show AsksOnceAfter config .bootstrap
        [⟨.run config.listCommand .captured, reply⟩] _
      cases ClusterState.ofListing config.cluster.name output.stdout with
      | absent =>
        exact (completes_setUpCluster config).asksOnceAfter (listed reply)
      | present =>
          have recreates :=
            agreed_deleteCluster config (fun _ => setUpCluster config)
            (.inl rfl) (completes_setUpCluster config)
          exact asksOnceAfter_consent (listed reply) rfl recreates rfl

theorem asksOnceAfter_teardown (config : Config) :
    AsksOnceAfter config .teardown [] (teardown config) := by
  have nothing : Harmless [] := by simp [Harmless]
  have carriedOut : Completes (pure .completed) := completes_pure rfl
  have deletes :=
    agreed_deleteCluster config (fun _ => pure .completed) (.inr rfl) carriedOut
  exact asksOnceAfter_consent nothing rfl deletes rfl

theorem asksOnceAfter_applyConfig (config : Config) :
    AsksOnceAfter config .applyConfig [] (applyConfig config) := by
  have nothing : Harmless [] := by simp [Harmless]
  apply asksOnceAfter_bind nothing (quiet_materializeSecret config).isHarmless
  intro first _ harmlessFirst
  apply asksOnceAfter_bind harmlessFirst
    (quiet_applyManifest config _).isHarmless
  intro second _ harmlessSecond
  have restarts : Ensures (do
      restartAll config
      return Outcome.completed) fun late result =>
        Agreed (.undertake .applyConfig) late ∧
          ∀ outcome, result = .ok outcome → outcome.isDeclined = false := by
    apply Ensures.bind (agreed_restartAll config)
    · intro late failure agreed
      exact ⟨agreed, fun _ same => by cases same⟩
    · intro late _ agreed
      refine ensures_pure ⟨by simpa using agreed, ?_⟩
      intro outcome same
      cases same
      rfl
  exact asksOnceAfter_consent harmlessSecond trivial restarts rfl

/-- Every operation asks for consent at most once, needs it only afterwards, and
stops when it is refused. -/
theorem asksOnce (config : Config) (call : Call) :
    Ensures (call.operation config) fun trace result =>
      AsksOnce config call trace (call.declined result) := by
  have nothing : Harmless [] := by simp [Harmless]
  cases call with
  | undertake undertaking =>
      cases undertaking with
      | bootstrap => exact asksOnceAfter_bootstrap config
      | teardown => exact asksOnceAfter_teardown config
      | deployInfrastructure =>
        exact (completes_deployInfrastructure config).asksOnceAfter nothing
      | deployServices =>
        exact (completes_deployServices config).asksOnceAfter nothing
      | ship query => exact (completes_ship config query).asksOnceAfter nothing
      | applyConfig => exact asksOnceAfter_applyConfig config
  | buildAll =>
      exact Ensures.mono (quiet_continueBatch config .empty _).isHarmless
        fun _ _ => .never
  | writeSecret =>
      exact Ensures.mono (quiet_materializeSecret config).isHarmless
        fun _ _ => .never
  | checkPrerequisites =>
      have harmless : IsHarmless (checkPrerequisites config) :=
        asksOnly_checkPrerequisites config (fun _ => rfl) rfl
      exact Ensures.mono harmless fun _ _ => .never
  | status =>
      have harmless : IsHarmless (status config) := asksOnly_snapshot rfl
      exact Ensures.mono harmless fun _ _ => .never
  | metrics scope =>
      have harmless : IsHarmless (metrics config scope) := by
        cases scope with
        | nodes => exact asksOnly_snapshot rfl
        | pods => exact asksOnly_snapshot rfl
      exact Ensures.mono harmless fun _ _ => .never
  | findPod query =>
      have harmless : IsHarmless (findPod config query) :=
        asksOnly_findPod config query fun _ => rfl
      exact Ensures.mono harmless fun _ _ => .never
  | streamLogs pod follow =>
      have harmless : IsHarmless (streamLogs config pod follow) :=
        asksOnly_streamLogs rfl
      exact Ensures.mono harmless fun _ _ => .never

end Operation

namespace Session

/-- In every session, against any surroundings, every operation is gated by
consent. -/
theorem entries_gated (surroundings : Surroundings σ) (config : Config)
    (calls : List Call) (state : σ) :
    ∀ entry ∈ entries surroundings config calls state,
      Gated config entry.call entry.run.trace entry.run.value :=
  entries_ensure
    (fun call => Operation.Ensures.mono (Operation.asksOnce config call)
        fun _ _ => AsksOnce.gated)
    surroundings calls state

/-- The cluster is there, and the operator consents once and then no more. -/
def consentingOnce : Rehearsal :=
  { Rehearsal.ofScript (Script.empty.cue
      ⟨.start ["kind", "get", "clusters"], ⟨0, "limitedcart\n", some ""⟩⟩) with
    answers? := some (.ofList [.gives true, .gives false]) }

/-- The cluster is created anew, and then stays: of the two operations the first
one has deleted it. -/
theorem entries_gated_consentingOnce :
    ∃ recreated kept,
      entries Rehearsal.performers .standard [.undertake .bootstrap,
        .undertake .teardown]
        consentingOnce = [recreated, kept] ∧
      recreated.run.trace.countP Exchange.isDeletion = 1 ∧
      kept.run.trace.any Exchange.isRefusal = true ∧
      Gated .standard recreated.call recreated.run.trace recreated.run.value ∧
      Gated .standard kept.call kept.run.trace kept.run.value := by
  have gated := entries_gated Rehearsal.performers .standard
    [.undertake .bootstrap, .undertake .teardown] consentingOnce
  exact ⟨_, _, rfl, by decide +kernel, by decide +kernel,
    gated _ (.head _), gated _ (.tail _ (.head _))⟩

end Session

end ClusterConsole
