import ClusterConsole.Proofs.Session.FailStop

/-!
# Announced steps

Each step announces that it begins, does its work, and announces how it has
ended.  What is announced around a command and around the writing of the secret
is told here exchange by exchange.
-/

namespace ClusterConsole

/-- An item of two lists in a row is an item of one of them. -/
theorem split_append {first second early late : List α} {item : α}
    (split : first ++ second = early ++ item :: late) :
    (∃ middle, first = early ++ item :: middle ∧ late = middle ++ second) ∨
      ∃ middle, early = first ++ middle ∧ second = middle ++ item :: late := by
  rcases List.append_eq_append_iff.mp split with ⟨middle, rfl, rest⟩ |
    ⟨middle, rfl, rest⟩
  · exact .inr ⟨middle, rfl, rest⟩
  · cases middle with
    | nil => exact .inr ⟨[], by simp, rest.symm⟩
    | cons other middle =>
        obtain ⟨rfl, rfl⟩ := List.cons.inj rest
        exact .inl ⟨middle, rfl, rfl⟩

/-! ## Writing the secret -/

section Write

variable {source target : Path} {namespaceName contents : String}
  {exchanges : List Exchange}
  {failure? : Option Failure} {exchange : Exchange}

theorem Replacement.exchange_eq
    (replacement : Replacement target contents exchanges failure?)
    (member : exchange ∈ exchanges) :
    ∃ asked reply, exchange = ⟨.file asked, reply⟩ := by
  cases replacement with
  | _ =>
      simp only [List.mem_cons, List.not_mem_nil, or_false] at member
      rcases member with rfl | rfl | rfl | rfl <;> exact ⟨_, _, rfl⟩

/-- The writing of the secret is between the program and the file system. -/
theorem SecretWrite.exchange_eq
    (write : SecretWrite source target namespaceName exchanges failure?)
    (member : exchange ∈ exchanges) :
    ∃ asked reply, exchange = ⟨.file asked, reply⟩ := by
  cases write with
  | unread =>
      cases List.mem_singleton.mp member
      exact ⟨_, _, rfl⟩
  | rewritten read replacement =>
      rcases List.mem_cons.mp member with rfl | later
      · exact ⟨_, _, rfl⟩
      · exact replacement.exchange_eq later

end Write

/-- The exchanges when the secret of a configuration is written with
announcements, and why that failed. -/
inductive AnnouncedWrite (config : Config) :
    List Exchange → Option Failure → Prop where
  | unwritten {exchanges : List Exchange} {failure : Failure}
      (write : SecretWrite config.sourcePath config.secretPath
          config.namespaceName exchanges
        (some failure)) :
      AnnouncedWrite config
        (⟨.announce (.started .writeSecrets config.secretPath.text), ()⟩ ::
          exchanges)
        (some failure)
  | written {exchanges notices : List Exchange}
      (write : SecretWrite config.sourcePath config.secretPath
          config.namespaceName exchanges none)
      (noticed : notices = [] ∨
        ∃ message, notices = [⟨.announce (.notice message), ()⟩]) :
      AnnouncedWrite config
        (⟨.announce (.started .writeSecrets config.secretPath.text), ()⟩ ::
          (exchanges ++ (notices ++
            [⟨.announce (.finished .writeSecrets config.secretPath.text),
                ()⟩])))
        none

/-- All that it takes is asked of the file system, or announced. -/
theorem AnnouncedWrite.exchange_eq {config : Config}
    {exchanges : List Exchange} {failure? : Option Failure}
    (write : AnnouncedWrite config exchanges failure?)
    {exchange : Exchange} (member : exchange ∈ exchanges) :
    (∃ asked reply, exchange = ⟨.file asked, reply⟩) ∨
    ∃ event, exchange = ⟨.announce event, ()⟩ := by
  cases write with
  | unwritten write =>
      rcases List.mem_cons.mp member with rfl | inWrite
      · exact .inr ⟨_, rfl⟩
      · exact .inl (write.exchange_eq inWrite)
  | written write noticed =>
      rcases List.mem_cons.mp member with rfl | member
      · exact .inr ⟨_, rfl⟩
      rcases List.mem_append.mp member with inWrite | member
      · exact .inl (write.exchange_eq inWrite)
      rcases List.mem_append.mp member with inNotices | isLast
      · rcases noticed with rfl | ⟨message, rfl⟩
        · cases inNotices
        · exact .inr ⟨_, List.mem_singleton.mp inNotices⟩
      · exact .inr ⟨_, List.mem_singleton.mp isLast⟩

namespace Operation

theorem ensures_materializeSecret (config : Config) :
    Ensures (materializeSecret config) fun trace result =>
      AnnouncedWrite config trace (failureOf result) := by
  apply ensures_bind
  apply ensures_announce
  apply Ensures.bind (ensures_writeSecret _ _ _)
  · intro trace failure write
    exact .unwritten write
  · intro trace written write
    cases sourced : written.hasSource with
    | true =>
        apply ensures_bind
        apply ensures_announce
        show AnnouncedWrite config (_ :: (trace ++ ([] ++ _))) none
        exact .written write (.inl rfl)
    | false =>
        apply ensures_bind
        apply ensures_announce
        apply ensures_bind
        apply ensures_announce
        exact ensures_pure (.written write (.inr ⟨_, rfl⟩))

/-! ## Waiting -/

theorem ensures_wait {config : Config} {probe : Probe}
    {after : List Exchange → Except Failure Readiness → Prop}
    (ready : ∀ output : CommandOutput, output.isSuccess = true →
      after [⟨.announce (.started .waitReady probe.selector), ()⟩,
        ⟨.run (config.waitCommand probe) .unchecked, .ok output⟩,
        ⟨.announce (.finished .waitReady probe.selector), ()⟩] (.ok .ready))
    (timedOut : ∀ reply,
      Exchange.isSuccess ⟨.run (config.waitCommand probe) .unchecked,
        reply⟩ = false →
      after [⟨.announce (.started .waitReady probe.selector), ()⟩,
        ⟨.run (config.waitCommand probe) .unchecked, reply⟩,
        ⟨.announce (.degraded (.notReady probe)), ()⟩] (.ok .timedOut)) :
    Ensures (wait config probe) after := by
  unfold wait
  apply ensures_bind
  apply ensures_announce
  apply ensures_bind
  apply ensures_result
  apply ensures_invoke
  intro reply
  have degrades (fails : Exchange.isSuccess
      ⟨.run (config.waitCommand probe) .unchecked, reply⟩ = false) :
      Ensures (wait.timedOut probe) fun later result =>
        after ([⟨.announce (.started .waitReady probe.selector), ()⟩] ++
          ([⟨.run (config.waitCommand probe) .unchecked, reply⟩] ++ later))
          result := by
    apply ensures_bind
    apply ensures_announce
    exact ensures_pure (timedOut reply fails)
  cases reply with
  | error cause => exact degrades rfl
  | ok output =>
      have answers : (config.waitCommand probe).result .unchecked (.ok output) =
        .ok output := rfl
      rw [answers]
      cases success : output.isSuccess with
      | true =>
          simp only [success, if_true]
          apply ensures_bind
          apply ensures_announce
          exact ready output success
      | false =>
          simp only [success, Bool.false_eq_true, if_false]
          exact degrades success

/-- A wait never stops an operation: it is either finished or degraded. -/
theorem ensures_awaitReady {config : Config} {probe : Probe} {outcome : Outcome}
    {after : List Exchange → Except Failure Outcome → Prop}
    (ready : ∀ output : CommandOutput, output.isSuccess = true →
      after [⟨.announce (.started .waitReady probe.selector), ()⟩,
        ⟨.run (config.waitCommand probe) .unchecked, .ok output⟩,
        ⟨.announce (.finished .waitReady probe.selector), ()⟩] (.ok outcome))
    (timedOut : ∀ reply,
      Exchange.isSuccess ⟨.run (config.waitCommand probe) .unchecked,
        reply⟩ = false →
      after [⟨.announce (.started .waitReady probe.selector), ()⟩,
        ⟨.run (config.waitCommand probe) .unchecked, reply⟩,
        ⟨.announce (.degraded (.notReady probe)), ()⟩] (.ok
          (outcome.warn (.notReady probe)))) :
    Ensures (awaitReady config probe outcome) after := by
  unfold awaitReady
  apply ensures_bind
  apply ensures_wait
  · intro output success
    exact ready output success
  · intro reply fails
    exact timedOut reply fails

end Operation

end ClusterConsole
