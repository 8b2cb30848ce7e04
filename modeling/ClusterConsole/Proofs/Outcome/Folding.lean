import ClusterConsole.Outcome

/-!
# Folding outcomes

Outcomes are folded by absorption, which is associative and has a unit.  The
other two ways to add to an outcome, a warning and the report of a batch,
commute with it, so that what an operation adds is absorbed as a whole.  It
follows that nothing that was there before is lost, that what is added comes in
its order, and that an outcome that is not clean never becomes clean.
-/

namespace ClusterConsole

theorem ImageReport.append_append (first second third : ImageReport) :
    first ++ second ++ third = first ++ (second ++ third) :=
  congrArg ImageReport.mk (List.append_assoc ..)

theorem ImageReport.failures_append (first second : ImageReport) :
    (first ++ second).failures = first.failures ++ second.failures :=
  List.filter_append ..

/-- The warning that a result in a report is recorded with. -/
def ImageResult.warning? (result : ImageResult) : Option Warning :=
  match result.outcome with
  | .buildFailed _ => some (.imageFailed result.service)
  | .loadFailed _ => some (.imageFailed result.service)
  | .builtAndLoaded => none
  | .skipped => none

theorem ImageReport.map_failures (report : ImageReport) :
    (report.failures.map fun result => Warning.imageFailed result.service) =
      report.results.filterMap ImageResult.warning? := by
  rw [failures, ← List.filterMap_eq_filter, List.map_filterMap]
  congr 1
  funext result
  obtain ⟨service, image, outcome⟩ := result
  cases outcome <;> rfl

namespace Outcome

/-! ## Absorption -/

section Absorption

variable {outcome part : Outcome}

theorem absorb_status_eq_declined_iff :
    (outcome.absorb part).status = .declined ↔
      outcome.status = .declined ∨ part.status = .declined := by
  by_cases declined : part.status = .declined
  · simp [absorb, declined]
  · simp [absorb, declined]

theorem absorb_absorb (first second third : Outcome) :
    (first.absorb second).absorb third = first.absorb
    (second.absorb third) := by
  simp only [absorb, List.append_assoc, ImageReport.append_append,
    Outcome.mk.injEq, and_true]
  by_cases declined : third.status = .declined
  · simp [declined]
  · simp [declined]

theorem completed_absorb (outcome : Outcome) :
    completed.absorb outcome = outcome := by
  obtain ⟨status, warnings, images⟩ := outcome
  cases status <;> rfl

theorem absorb_completed (outcome : Outcome) :
    outcome.absorb completed = outcome := by
  obtain ⟨status, warnings, ⟨results⟩⟩ := outcome
  have sameImages : (⟨results⟩ : ImageReport) ++ .empty = ⟨results⟩ :=
    congrArg ImageReport.mk (List.append_nil results)
  simp [absorb, completed, sameImages]

theorem warn_absorb (outcome part : Outcome) (warning : Warning) :
    (outcome.absorb part).warn warning = outcome.absorb
    (part.warn warning) := by
  simp only [warn, absorb, List.append_assoc]
  rfl

theorem recordImages_absorb (outcome part : Outcome) (report : ImageReport) :
    (outcome.absorb part).recordImages report = outcome.absorb
    (part.recordImages report) := by
  simp only [recordImages, absorb, List.append_assoc, ImageReport.append_append]
  rfl

theorem recordImages_recordImages (outcome : Outcome)
    (first second : ImageReport) :
    (outcome.recordImages first).recordImages second = outcome.recordImages
    (first ++ second) := by
  simp only [recordImages, ImageReport.failures_append, List.map_append,
    List.append_assoc, ImageReport.append_append]

theorem isClean_iff :
    outcome.isClean = true ↔ ¬ outcome.status = .declined ∧
    outcome.warnings = [] := by
  obtain ⟨status, warnings, images⟩ := outcome
  cases status <;> simp [isClean]

theorem isClean_of_absorb (clean : (outcome.absorb part).isClean = true) :
    outcome.isClean = true := by
  obtain ⟨notDeclined, noWarnings⟩ := isClean_iff.mp clean
  have noneBefore : outcome.warnings ++ part.warnings = [] := noWarnings
  rw [isClean_iff]
  constructor
  · intro declined
    exact notDeclined (absorb_status_eq_declined_iff.mpr (.inl declined))
  · exact (List.append_eq_nil_iff.mp noneBefore).1

end Absorption

/-! ## Additions -/

/-- What an operation adds to an outcome while it goes on. -/
inductive Addition where
  | warn (warning : Warning)
  | absorb (part : Outcome)
  | record (report : ImageReport)

namespace Addition

def warnings : Addition → List Warning
  | warn warning => [warning]
  | absorb part => part.warnings
  | record report => report.results.filterMap ImageResult.warning?

def results : Addition → List ImageResult
  | warn _ => []
  | absorb part => part.images.results
  | record report => report.results

end Addition

def add (outcome : Outcome) : Addition → Outcome
  | .warn warning => outcome.warn warning
  | .absorb part => outcome.absorb part
  | .record report => outcome.recordImages report

def addAll (outcome : Outcome) (additions : List Addition) : Outcome :=
  additions.foldl add outcome

section Additions

variable (outcome : Outcome) (addition : Addition) (additions : List Addition)

theorem addAll_cons : outcome.addAll (addition :: additions) =
    (outcome.add addition).addAll additions :=
  rfl

theorem addAll_append (early late : List Addition) :
    outcome.addAll (early ++ late) = (outcome.addAll early).addAll late :=
  List.foldl_append ..

theorem warnings_add : (outcome.add addition).warnings =
    outcome.warnings ++ addition.warnings := by
  cases addition with
  | warn warning => rfl
  | absorb part => rfl
  | record report => exact congrArg (outcome.warnings ++ ·) report.map_failures

theorem results_add : (outcome.add addition).images.results =
    outcome.images.results ++ addition.results := by
  cases addition with
  | warn warning => exact (List.append_nil _).symm
  | absorb part => rfl
  | record report => rfl

theorem add_status_eq_declined_iff :
    (outcome.add addition).status = .declined ↔
      outcome.status = .declined ∨
        ∃ part, addition = .absorb part ∧ part.status = .declined := by
  cases addition with
  | warn warning => simp [add, warn]
  | absorb part => simp [add, absorb_status_eq_declined_iff]
  | record report => simp [add, recordImages]

theorem add_absorb (part : Outcome) :
    (outcome.absorb part).add addition = outcome.absorb
    (part.add addition) := by
  cases addition with
  | warn warning => exact warn_absorb outcome part warning
  | absorb later => exact absorb_absorb outcome part later
  | record report => exact recordImages_absorb outcome part report

theorem warnings_addAll : (outcome.addAll additions).warnings =
    outcome.warnings ++ additions.flatMap Addition.warnings := by
  induction additions generalizing outcome with
  | nil => simp [addAll]
  | cons first rest ih =>
      rw [addAll_cons, ih, warnings_add, List.append_assoc, List.flatMap_cons]

theorem results_addAll : (outcome.addAll additions).images.results =
    outcome.images.results ++ additions.flatMap Addition.results := by
  induction additions generalizing outcome with
  | nil => simp [addAll]
  | cons first rest ih =>
      rw [addAll_cons, ih, results_add, List.append_assoc, List.flatMap_cons]

theorem addAll_status_eq_declined_iff :
    (outcome.addAll additions).status = .declined ↔
      outcome.status = .declined ∨
        ∃ part, Addition.absorb part ∈ additions ∧ part.status = .declined := by
  induction additions generalizing outcome with
  | nil => simp [addAll]
  | cons first rest ih =>
      rw [addAll_cons, ih, add_status_eq_declined_iff]
      simp only [List.mem_cons, or_and_right, exists_or, or_assoc,
        eq_comm (b := first)]

theorem addAll_absorb (part : Outcome) :
    (outcome.absorb part).addAll additions = outcome.absorb
    (part.addAll additions) := by
  induction additions generalizing part with
  | nil => rfl
  | cons first rest ih => rw [addAll_cons, addAll_cons, add_absorb, ih]

/-- All additions are absorbed like one part, the outcome that consists of them
alone. -/
theorem addAll_eq_absorb :
    outcome.addAll additions = outcome.absorb (completed.addAll additions) := by
  rw [← addAll_absorb, absorb_completed]

theorem isClean_of_addAll (clean : (outcome.addAll additions).isClean = true) :
    outcome.isClean = true := by
  rw [addAll_eq_absorb] at clean
  exact isClean_of_absorb clean

end Additions

/-- Absorption is associative and the outcome that is merely completed is its
unit.  Additions lose nothing that was there before: their warnings and results
come after it in their order, the outcome stays declined, and it never becomes
clean.  The reports of two batches are recorded like the report of both. -/
theorem addAll_preserves :
    (∀ first second third : Outcome,
      (first.absorb second).absorb third = first.absorb (second.absorb third)) ∧
      (∀ outcome : Outcome, completed.absorb outcome = outcome ∧
        outcome.absorb completed = outcome) ∧
      (∀ (start : Outcome) (additions : List Addition),
        (start.addAll additions).warnings =
          start.warnings ++ additions.flatMap Addition.warnings ∧
        (start.addAll additions).images.results =
          start.images.results ++ additions.flatMap Addition.results ∧
        ((start.addAll additions).status = .declined ↔
          start.status = .declined ∨
            ∃ part, Addition.absorb part ∈ additions ∧
            part.status = .declined)) ∧
      (∀ (start : Outcome) (early late : List Addition),
        (start.addAll early).warnings <+:
          (start.addAll (early ++ late)).warnings ∧
        (start.addAll early).images.results <+:
          (start.addAll (early ++ late)).images.results ∧
        ((start.addAll early).isClean = false →
          (start.addAll (early ++ late)).isClean = false)) ∧
      ∀ (outcome : Outcome) (first second : ImageReport),
        (outcome.recordImages first).recordImages second =
          outcome.recordImages (first ++ second) := by
  refine ⟨absorb_absorb,
    fun outcome => ⟨completed_absorb outcome, absorb_completed outcome⟩,
    ?_, ?_, recordImages_recordImages⟩
  · intro start additions
    exact ⟨warnings_addAll start additions, results_addAll start additions,
      addAll_status_eq_declined_iff start additions⟩
  · intro start early late
    rw [addAll_append]
    refine ⟨?_, ?_, ?_⟩
    · exact ⟨_, (warnings_addAll (start.addAll early) late).symm⟩
    · exact ⟨_, (results_addAll (start.addAll early) late).symm⟩
    · intro notClean
      rw [Bool.eq_false_iff] at notClean ⊢
      intro clean
      exact notClean (isClean_of_addAll _ late clean)

/-- An outcome with a warning stays unclean when it absorbs a part with nothing
to warn of. -/
theorem addAll_preserves_warned :
    let warned := completed.addAll [.warn (.imageFailed "web")]
    warned.isClean = false ∧ (completed.addAll ([.warn (.imageFailed "web")] ++
      [.absorb completed])).isClean = false := by
  intro warned
  have notClean : warned.isClean = false := by decide
  obtain ⟨-, -, -, preserves, -⟩ := addAll_preserves
  exact ⟨notClean, (preserves completed _ [.absorb completed]).2.2 notClean⟩

end Outcome

end ClusterConsole
