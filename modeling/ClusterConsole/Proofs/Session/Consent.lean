import ClusterConsole.Proofs.Procedure.AsksOnly
import ClusterConsole.Proofs.Session.Basic
import ClusterConsole.Rehearsal.Basic

/-!
# Consent

Deleting the cluster and restarting all workloads need the operator's consent,
given in the same operation and used up by one deletion.  An operation asks for
it at most once, does nothing before that needs it, and stops when it is
refused.
-/

namespace ClusterConsole

namespace Exchange

def isCommand : Exchange → Bool
  | ⟨.run _ _, _⟩ => true
  | _ => false

/-- Whether a command is run that deletes a cluster. -/
def isDeletion : Exchange → Bool
  | ⟨.run invocation _, _⟩ => invocation.deletesCluster
  | _ => false

/-- Whether a command is run that restarts all workloads of a kind. -/
def isBulkRestart : Exchange → Bool
  | ⟨.run invocation _, _⟩ => invocation.restartsAll
  | _ => false

def isConsent : Exchange → Bool
  | ⟨.confirm _ _, .ok true⟩ => true
  | _ => false

/-- Whether the operator is asked for consent and does not give it, be it that
there is no answer. -/
def isRefusal : Exchange → Bool
  | ⟨.confirm _ _, .ok true⟩ => false
  | ⟨.confirm _ _, _⟩ => true
  | _ => false

end Exchange

def commands (trace : List Exchange) : List Invocation :=
  trace.filterMap fun
    | ⟨.run invocation _, _⟩ => some invocation
    | _ => none

theorem commands_concat {early : List Exchange} {exchange : Exchange}
    (noCommand : exchange.isCommand = false) :
    commands (early ++ [exchange]) = commands early := by
  obtain ⟨request, reply⟩ := exchange
  cases request with
  | run => cases noCommand
  | _ => simp [commands]

/-- Whether the result of a call says that it was declined. -/
def Call.declined : (call : Call) → Except Failure call.Result → Bool
  | .undertake _, .ok outcome => outcome.isDeclined
  | _, _ => false

/-- What consent means for one operation. -/
structure Gated (config : Config) (call : Call) (trace : List Exchange)
    (result : Except Failure call.Result) : Prop where
  /-- Only two operations delete a cluster. -/
  deletion_call : ∀ exchange ∈ trace, exchange.isDeletion = true →
    call = .undertake .bootstrap ∨ call = .undertake .teardown
  /-- Only one operation restarts all workloads. -/
  restart_call : ∀ exchange ∈ trace, exchange.isBulkRestart = true →
    call = .undertake .applyConfig
  /-- Consent comes first. -/
  consent_first : ∀ early gated late, trace = early ++ gated :: late →
    gated.isDeletion = true ∨ gated.isBulkRestart = true →
    ∃ consent ∈ early, consent.isConsent = true
  /-- There are never more deletions than there was consent. -/
  deletions_le : ∀ early, early <+: trace →
    early.countP Exchange.isDeletion ≤ early.countP Exchange.isConsent
  /-- Nothing is run after a refusal. -/
  refusal_last : ∀ early refusal late, trace = early ++ refusal :: late →
    refusal.isRefusal = true → ∀ exchange ∈ late, exchange.isCommand = false
  /-- A refused bootstrap has done nothing but list the clusters. -/
  refused_bootstrap : call = .undertake .bootstrap →
    (∃ refusal ∈ trace, refusal.isRefusal = true) →
    commands trace = [config.listCommand]
  /-- A refused teardown has done nothing at all. -/
  refused_teardown : call = .undertake .teardown →
    (∃ refusal ∈ trace, refusal.isRefusal = true) → commands trace = []
  /-- Only a refusal makes an operation a declined one. -/
  declined_refused : call.declined result = true →
    ∃ refusal ∈ trace, refusal.isRefusal = true

/-! ## Requests that need no consent -/

/-- Whether a request asks for no consent and needs none. -/
def Request.isHarmless : Request → Bool
  | .run invocation _ => !invocation.needsConsent
  | .confirm _ _ => false
  | _ => true

theorem Request.isHarmless_of_isQuiet (request : Request)
    (quiet : request.isQuiet = true) :
    request.isHarmless = true := by
  cases request with
  | run => exact quiet
  | confirm => exact quiet
  | _ => rfl

/-- Whether each exchange of a trace asks for no consent and needs none. -/
def Harmless (trace : List Exchange) : Prop :=
  ∀ exchange ∈ trace, exchange.request.isHarmless = true

namespace Harmless

theorem append {early late : List Exchange} (harmlessEarly : Harmless early)
    (harmlessLate : Harmless late) : Harmless (early ++ late) := by
  intro exchange member
  rcases List.mem_append.mp member with inEarly | inLate
  · exact harmlessEarly exchange inEarly
  · exact harmlessLate exchange inLate

variable {exchange : Exchange}

theorem needs_nothing (harmless : exchange.request.isHarmless = true) :
    exchange.isDeletion = false ∧ exchange.isBulkRestart = false := by
  obtain ⟨request, reply⟩ := exchange
  cases request with
  | run invocation options =>
      have parts : invocation.deletesCluster = false ∧
          invocation.restartsAll = false := by
        simpa [Request.isHarmless, Invocation.needsConsent] using harmless
      exact parts
  | _ => exact ⟨rfl, rfl⟩

theorem not_isDeletion (harmless : exchange.request.isHarmless = true) :
    exchange.isDeletion = false :=
  (needs_nothing harmless).1

theorem not_isBulkRestart (harmless : exchange.request.isHarmless = true) :
    exchange.isBulkRestart = false :=
  (needs_nothing harmless).2

theorem not_isRefusal (harmless : exchange.request.isHarmless = true) :
    exchange.isRefusal = false := by
  obtain ⟨request, reply⟩ := exchange
  cases request with
  | confirm => cases harmless
  | _ => rfl

theorem countP_isDeletion {trace : List Exchange} (harmless : Harmless trace) :
    trace.countP Exchange.isDeletion = 0 :=
  List.countP_eq_zero.mpr fun exchange member => by
    simp [not_isDeletion (harmless exchange member)]

end Harmless

/-! ## Asking for consent once -/

/-- What comes before consent is asked for: a bootstrap has listed the clusters,
and a teardown has done nothing. -/
def Prelude (config : Config) : Call → List Exchange → Prop
  | .undertake .bootstrap, early => commands early = [config.listCommand]
  | .undertake .teardown, early => commands early = []
  | _, _ => True

/-- What comes after consent. -/
structure Agreed (call : Call) (late : List Exchange) : Prop where
  refusals : ∀ exchange ∈ late, exchange.isRefusal = false
  deletion_call : ∀ exchange ∈ late, exchange.isDeletion = true →
    call = .undertake .bootstrap ∨ call = .undertake .teardown
  restart_call : ∀ exchange ∈ late, exchange.isBulkRestart = true →
    call = .undertake .applyConfig
  deletions_le_one : late.countP Exchange.isDeletion ≤ 1

/-- The traces of an operation that asks for consent at most once, needs it only
afterwards, and stops when it is refused; the last index tells whether the
operation was declined. -/
inductive AsksOnce (config : Config) (call : Call) :
    List Exchange → Bool → Prop where
  | never {trace : List Exchange} (harmless : Harmless trace) :
      AsksOnce config call trace false
  | refused {early : List Exchange} {refusal : Exchange} {isDeclined : Bool}
      (harmless : Harmless early) (prelude : Prelude config call early)
      (refuses : refusal.isRefusal = true) :
      AsksOnce config call (early ++ [refusal]) isDeclined
  | consented {early late : List Exchange} {consent : Exchange}
      (harmless : Harmless early) (consents : consent.isConsent = true)
      (agreed : Agreed call late) :
      AsksOnce config call (early ++ consent :: late) false

/-- Consent is nothing that needs consent, and no refusal. -/
theorem Exchange.only_consent {exchange : Exchange}
    (consents : exchange.isConsent = true) :
    exchange.isDeletion = false ∧ exchange.isBulkRestart = false ∧
      exchange.isRefusal = false := by
  obtain ⟨request, reply⟩ := exchange
  cases request with
  | confirm question preset =>
      cases reply with
      | error reason => cases consents
      | ok answer =>
          cases answer with
          | false => cases consents
          | true => exact ⟨rfl, rfl, rfl⟩
  | _ => cases consents

/-- A refusal is no command, and so nothing that needs consent. -/
theorem Exchange.only_refusal {exchange : Exchange}
    (refuses : exchange.isRefusal = true) :
    exchange.isDeletion = false ∧ exchange.isBulkRestart = false ∧
      exchange.isCommand = false := by
  obtain ⟨request, reply⟩ := exchange
  cases request with
  | confirm => exact ⟨rfl, rfl, rfl⟩
  | _ => cases refuses

/-- Of two splits of one list, the second is at the first one's place or later,
unless it is at an item that the first one has already passed. -/
private theorem split_later {early late before after : List Exchange}
    {asked other : Exchange}
    (split : early ++ asked :: late = before ++ other :: after)
    (passed : other ∉ early) :
    (other = asked ∧ after = late) ∨ (asked ∈ before ∧ other ∈ late) := by
  rcases List.append_eq_append_iff.mp split with
    ⟨middle, before_eq, rest_eq⟩ | ⟨middle, early_eq, rest_eq⟩
  · cases middle with
    | nil =>
        simp only [List.nil_append, List.cons.injEq] at rest_eq
        exact .inl ⟨rest_eq.1.symm, rest_eq.2.symm⟩
    | cons head tail =>
        simp only [List.cons_append, List.cons.injEq] at rest_eq
        obtain ⟨rfl, rfl⟩ := rest_eq
        exact .inr ⟨by simp [before_eq], by simp⟩
  · cases middle with
    | nil =>
        simp only [List.nil_append, List.cons.injEq] at rest_eq
        exact .inl ⟨rest_eq.1, rest_eq.2⟩
    | cons head tail =>
        simp only [List.cons_append, List.cons.injEq] at rest_eq
        exact absurd (by simp [early_eq, rest_eq.1]) passed

namespace AsksOnce

variable {config : Config} {call : Call} {trace : List Exchange}
  {result : Except Failure call.Result} {isDeclined : Bool}

/-- Whatever needs consent comes after consent, and is agreed to. -/
theorem of_needs (asksOnce : AsksOnce config call trace isDeclined)
    {before after : List Exchange} {gated : Exchange}
    (split : trace = before ++ gated :: after)
    (needs : gated.isDeletion = true ∨ gated.isBulkRestart = true) :
    ∃ consent ∈ before, consent.isConsent = true ∧
      ∃ late, Agreed call late ∧ gated ∈ late := by
  -- Being nothing harmless, it is in no part that comes before consent is asked
  -- for.
  have passes {early : List Exchange} (harmless : Harmless early) :
      gated ∉ early := by
    intro member
    rcases needs with deletes | restarts
    · simp [Harmless.not_isDeletion (harmless gated member)] at deletes
    · simp [Harmless.not_isBulkRestart (harmless gated member)] at restarts
  cases asksOnce with
  | never harmless => exact absurd (by simp [split]) (passes harmless)
  | refused harmless prelude refuses =>
      rcases split_later split (passes harmless) with ⟨rfl, _⟩ | ⟨_, member⟩
      · simp [Exchange.only_refusal refuses] at needs
      · cases member
  | consented harmless consents agreed =>
      rcases split_later split (passes harmless) with ⟨rfl, _⟩ | ⟨asked, member⟩
      · simp [Exchange.only_consent consents] at needs
      · exact ⟨_, asked, consents, _, agreed, member⟩

/-- A refusal is the end, and comes after the prelude. -/
theorem of_refuses (asksOnce : AsksOnce config call trace isDeclined)
    {before after : List Exchange} {refusal : Exchange}
    (split : trace = before ++ refusal :: after)
    (refuses : refusal.isRefusal = true) :
    after = [] ∧ ∃ early, Prelude config call early ∧
    commands trace = commands early := by
  have passes {early : List Exchange} (harmless : Harmless early) :
      refusal ∉ early := by
    intro member
    simp [Harmless.not_isRefusal (harmless refusal member)] at refuses
  cases asksOnce with
  | never harmless => exact absurd (by simp [split]) (passes harmless)
  | @refused early asked _ harmless prelude refusesAsked =>
      rcases split_later split (passes harmless) with ⟨_, rfl⟩ | ⟨_, member⟩
      · exact ⟨rfl, early, prelude,
          commands_concat (Exchange.only_refusal refusesAsked).2.2⟩
      · cases member
  | consented harmless consents agreed =>
      rcases split_later split (passes harmless) with ⟨rfl, _⟩ | ⟨_, member⟩
      · simp [Exchange.only_consent consents] at refuses
      · simp [agreed.refusals refusal member] at refuses

theorem deletions_le (asksOnce : AsksOnce config call trace isDeclined)
    {first : List Exchange} (isFirst : first <+: trace) :
    first.countP Exchange.isDeletion ≤ first.countP Exchange.isConsent := by
  cases asksOnce with
  | never harmless =>
      have none : trace.countP Exchange.isDeletion = 0 :=
        Harmless.countP_isDeletion harmless
      have fewer := isFirst.sublist.countP_le (p := Exchange.isDeletion)
      omega
  | @refused early refusal _ harmless prelude refuses =>
      have none : (early ++ [refusal]).countP Exchange.isDeletion = 0 := by
        simp [Harmless.countP_isDeletion harmless,
          Exchange.only_refusal refuses]
      have fewer := isFirst.sublist.countP_le (p := Exchange.isDeletion)
      omega
  | @consented early late consent harmless consents agreed =>
      -- A prefix either ends before consent, or has it and some of what comes
      -- after it.
      have none := Harmless.countP_isDeletion harmless
      rcases List.prefix_or_prefix_of_prefix isFirst
        (List.prefix_append early _) with
        within | ⟨rest, rfl⟩
      · have fewer := within.sublist.countP_le (p := Exchange.isDeletion)
        omega
      · have isRest : rest <+: consent :: late :=
          (List.prefix_append_right_inj early).mp isFirst
        rcases List.prefix_cons_iff.mp isRest with rfl | ⟨later, rfl, isLater⟩
        · simp [none]
        · have one := agreed.deletions_le_one
          have fewer := isLater.sublist.countP_le (p := Exchange.isDeletion)
          simp only [List.countP_append, List.countP_cons, none,
            (Exchange.only_consent consents).1, consents]
          simp
          omega

theorem declined_refused (asksOnce : AsksOnce config call trace true) :
    ∃ refusal ∈ trace, refusal.isRefusal = true := by
  cases asksOnce with
  | @refused early refusal _ harmless prelude refuses =>
    exact ⟨refusal, by simp, refuses⟩

/-- Asking once is enough for everything that consent means. -/
theorem gated (asksOnce : AsksOnce config call trace (call.declined result)) :
    Gated config call trace result where
  deletion_call := by
    intro exchange member deletes
    obtain ⟨before, after, split⟩ := List.append_of_mem member
    obtain ⟨_, _, _, late, agreed, inLate⟩ :=
      asksOnce.of_needs split (.inl deletes)
    exact agreed.deletion_call exchange inLate deletes
  restart_call := by
    intro exchange member restarts
    obtain ⟨before, after, split⟩ := List.append_of_mem member
    obtain ⟨_, _, _, late, agreed, inLate⟩ :=
      asksOnce.of_needs split (.inr restarts)
    exact agreed.restart_call exchange inLate restarts
  consent_first := by
    intro early gated late split needs
    obtain ⟨consent, member, consents, _⟩ := asksOnce.of_needs split needs
    exact ⟨consent, member, consents⟩
  deletions_le := fun _ => asksOnce.deletions_le
  refusal_last := by
    intro early refusal late split refuses exchange member
    obtain ⟨rfl, _⟩ := asksOnce.of_refuses split refuses
    cases member
  refused_bootstrap := by
    rintro rfl ⟨refusal, member, refuses⟩
    obtain ⟨before, after, split⟩ := List.append_of_mem member
    obtain ⟨_, early, prelude, same⟩ := asksOnce.of_refuses split refuses
    exact same.trans prelude
  refused_teardown := by
    rintro rfl ⟨refusal, member, refuses⟩
    obtain ⟨before, after, split⟩ := List.append_of_mem member
    obtain ⟨_, early, prelude, same⟩ := asksOnce.of_refuses split refuses
    exact same.trans prelude
  declined_refused := by
    intro declined
    rw [declined] at asksOnce
    exact asksOnce.declined_refused

end AsksOnce

end ClusterConsole
