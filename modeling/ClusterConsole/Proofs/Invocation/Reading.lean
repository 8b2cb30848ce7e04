import ClusterConsole.Proofs.Procedure.Ensures
import ClusterConsole.Proofs.Text.Lines
import ClusterConsole.Rehearsal.Basic

/-!
# Reading the text of a command

The text shown for a command is for people, and nothing in it is escaped.  A
reader who knows where the quotes come from finds the program and the arguments
in it all the same, unless the program has a space or an argument brings quotes
of its own.  So the text tells two commands apart, in a failure and among the
commands of a rehearsal.
-/

namespace ClusterConsole

namespace Invocation

/-! ## Reading -/

/-- The argument that a text begins with, and what comes after it.  From a quote
it goes on up to the next quote, and otherwise up to the next space. -/
def readArgument? : List Char → Option (List Char × List Char)
  | '\'' :: text =>
    match text.dropWhile (· ≠ '\'') with
    | [] => none
    | _ :: after => some (text.takeWhile (· ≠ '\''), after)
  | text => some (text.takeWhile (· ≠ ' '), text.dropWhile (· ≠ ' '))

theorem length_le_of_readArgument? {text argument after : List Char}
    (read : readArgument? text = some (argument, after)) :
    after.length ≤ text.length := by
  unfold readArgument? at read
  split at read
  case h_1 rest =>
    have shorter := (List.dropWhile_sublist (l := rest) (· ≠ '\'')).length_le
    split at read
    case h_1 => cases read
    case h_2 closed =>
      cases read
      rw [closed] at shorter
      simp only [List.length_cons] at shorter ⊢
      omega
  case h_2 =>
    cases read
    exact (List.dropWhile_sublist _).length_le

/-- The arguments of a text in which there is a space before each of them. -/
def readArguments? : List Char → Option (List String)
  | [] => some []
  | ' ' :: text =>
    match _ : readArgument? text with
    | none => none
    | some (argument, after) =>
      (readArguments? after).map (String.ofList argument :: ·)
  | _ => none
termination_by text => text.length
decreasing_by exact Nat.lt_succ_of_le (length_le_of_readArgument? ‹_›)

/-- The program and the arguments that a text shows. -/
def read? (text : String) : Option (String × List String) :=
  (readArguments? (text.toList.dropWhile (· ≠ ' '))).map fun arguments =>
    (String.ofList (text.toList.takeWhile (· ≠ ' ')), arguments)

/-- The program and the arguments of a command, which is all but where it
runs. -/
def vector (invocation : Invocation) : String × List String :=
  (invocation.program, invocation.arguments)

/-! ## One argument -/

/-- Whether an argument can be told from its text: in quotes it has none of its
own, and without them it does not begin with one. -/
def IsLegible (argument : List Char) : Prop :=
  if needsQuotes argument then '\'' ∉ argument else argument.head? ≠ some '\''

section Argument

variable {text argument rest after : List Char}

theorem isLegible_of_not_mem (noQuote : '\'' ∉ argument) :
    IsLegible argument := by
  unfold IsLegible
  split
  case isTrue => exact noQuote
  case isFalse => exact fun first => noQuote (List.mem_of_mem_head? first)

theorem not_mem_of_not_needsQuotes (isBare : ¬ needsQuotes argument = true) :
    ' ' ∉ argument := by
  intro member
  apply isBare
  have isBlank : argument.any Text.isBlank = true :=
    List.any_eq_true.mpr ⟨' ', member, by decide⟩
  rw [needsQuotes, isBlank, Bool.or_true]

theorem readArgument?_quote (noQuote : '\'' ∉ argument) (rest : List Char) :
    readArgument? ('\'' :: (argument ++ '\'' :: rest)) =
      some (argument, rest) := by
  simp only [readArgument?,
    Text.takeWhile_append_of_not_mem noQuote Text.endsAt_cons,
    Text.dropWhile_append_of_not_mem noQuote Text.endsAt_cons]

theorem readArgument?_bare (noQuote : text.head? ≠ some '\'') :
    readArgument? text =
      some (text.takeWhile (· ≠ ' '), text.dropWhile (· ≠ ' ')) := by
  unfold readArgument?
  split
  case h_1 => simp at noQuote
  case h_2 => rfl

theorem not_mem_of_readArgument?
    (read : readArgument? ('\'' :: text) = some (argument, after)) :
    '\'' ∉ argument := by
  simp only [readArgument?] at read
  split at read
  case h_1 => cases read
  case h_2 =>
    cases read
    exact Text.not_mem_takeWhile '\'' text

theorem readArgument?_argumentText (isLegible : IsLegible argument)
    (ends : Text.EndsAt ' ' rest) :
    readArgument? (argumentText argument ++ rest) = some (argument, rest) := by
  unfold IsLegible at isLegible
  unfold argumentText
  split at isLegible
  case isTrue isQuoted =>
    rw [if_pos isQuoted]
    simpa using readArgument?_quote isLegible rest
  case isFalse isBare =>
    have noSpace := not_mem_of_not_needsQuotes isBare
    have noQuote : (argument ++ rest).head? ≠ some '\'' := by
      cases argument with
      | nil => exact fun first => absurd (ends _ first) (by decide)
      | cons char argument => exact isLegible
    rw [if_neg isBare, readArgument?_bare noQuote,
      Text.takeWhile_append_of_not_mem noSpace ends,
      Text.dropWhile_append_of_not_mem noSpace ends]

/-- An argument is read again exactly if it is legible, and nothing else is read
with it. -/
theorem readArgument?_argumentText_eq_some_iff (ends : Text.EndsAt ' ' rest) :
    readArgument? (argumentText argument ++ rest) = some (argument, after) ↔
      IsLegible argument ∧ after = rest := by
  constructor
  · intro read
    -- What is read from a quote on has no quote, so an argument that has one
    -- must not begin with it or be put in quotes.
    have isLegible : IsLegible argument := by
      unfold argumentText at read
      unfold IsLegible
      split at read
      case isTrue isQuoted =>
        rw [if_pos isQuoted]
        exact not_mem_of_readArgument? read
      case isFalse isBare =>
        rw [if_neg isBare]
        intro first
        obtain ⟨others, rfl⟩ := List.head?_eq_some_iff.mp first
        exact not_mem_of_readArgument? read List.mem_cons_self
    rw [readArgument?_argumentText isLegible ends] at read
    cases read
    exact ⟨isLegible, rfl⟩
  · rintro ⟨isLegible, rfl⟩
    exact readArgument?_argumentText isLegible ends

end Argument

/-! ## All arguments -/

theorem readArguments?_space (text : List Char) :
    readArguments? (' ' :: text) = (readArgument? text).bind
      fun (argument, after) =>
      (readArguments? after).map (String.ofList argument :: ·) := by
  rw [readArguments?]
  split
  case h_1 read => rw [read]; rfl
  case h_2 argument after read => rw [read]; rfl

theorem endsAt_arguments (arguments : List String) :
    Text.EndsAt ' ' (arguments.flatMap fun argument =>
      ' ' :: argumentText argument.toList) := by
  cases arguments with
  | nil => exact Text.endsAt_nil
  | cons argument arguments => exact Text.endsAt_cons

theorem readArguments?_eq_some_iff (arguments : List String) :
    readArguments? (arguments.flatMap fun argument =>
      ' ' :: argumentText argument.toList) =
        some arguments ↔
      ∀ argument ∈ arguments, IsLegible argument.toList := by
  induction arguments with
  | nil => simp [readArguments?]
  | cons argument arguments ih =>
      have ends := endsAt_arguments arguments
      rw [List.flatMap_cons, List.cons_append, readArguments?_space,
        List.forall_mem_cons, ← ih, Option.bind_eq_some_iff]
      constructor
      · rintro ⟨⟨own, after⟩, readOwn, readOthers⟩
        obtain ⟨others, read, same⟩ := Option.map_eq_some_iff.mp readOthers
        cases same
        rw [String.toList_ofList] at readOwn ⊢
        obtain ⟨isLegible, rfl⟩ :=
          (readArgument?_argumentText_eq_some_iff ends).mp readOwn
        exact ⟨isLegible, read⟩
      · rintro ⟨isLegible, readOthers⟩
        refine ⟨(argument.toList, _), readArgument?_argumentText isLegible ends,
          ?_⟩
        simp only [readOthers, Option.map_some, String.ofList_toList]

/-! ## The whole text -/

/-- The text of a command is read as its program and its arguments exactly if
the program has no space and every argument is legible. -/
theorem read?_text_eq_some_iff (invocation : Invocation) :
    read? invocation.text = some invocation.vector ↔
      ' ' ∉ invocation.program.toList ∧
        ∀ argument ∈ invocation.arguments, IsLegible argument.toList := by
  have ends := endsAt_arguments invocation.arguments
  rw [read?, text, String.toList_ofList, ← readArguments?_eq_some_iff]
  constructor
  · intro read
    obtain ⟨arguments, readArguments, same⟩ := Option.map_eq_some_iff.mp read
    obtain ⟨sameProgram, rfl⟩ := Prod.mk.inj same
    have noSpace : ' ' ∉ invocation.program.toList := by
      rw [← sameProgram, String.toList_ofList]
      exact Text.not_mem_takeWhile ' ' invocation.line
    rw [line, Text.dropWhile_append_of_not_mem noSpace ends] at readArguments
    exact ⟨noSpace, readArguments⟩
  · rintro ⟨noSpace, readArguments⟩
    rw [line, Text.dropWhile_append_of_not_mem noSpace ends,
      Text.takeWhile_append_of_not_mem noSpace ends, readArguments,
      String.ofList_toList]
    rfl

/-! ## Plain commands -/

/-- A command with no space in its program and no quotes in its arguments.  It
does no harm if the program is empty or has other blanks. -/
structure IsPlain (invocation : Invocation) : Prop where
  noSpace : ' ' ∉ invocation.program.toList
  noQuote : ∀ argument ∈ invocation.arguments, '\'' ∉ argument.toList

instance : DecidablePred IsPlain := fun invocation =>
  decidable_of_iff
    (' ' ∉ invocation.program.toList ∧
      ∀ argument ∈ invocation.arguments, '\'' ∉ argument.toList)
    ⟨fun both => ⟨both.1, both.2⟩, fun plain => ⟨plain.noSpace, plain.noQuote⟩⟩

section Plain

variable {invocation first second : Invocation}

theorem IsPlain.read?_text (plain : invocation.IsPlain) :
    read? invocation.text = some invocation.vector :=
  (read?_text_eq_some_iff invocation).mpr
    ⟨plain.noSpace, fun argument member =>
      isLegible_of_not_mem (plain.noQuote argument member)⟩

theorem text_congr (same : first.vector = second.vector) :
    first.text = second.text := by
  obtain ⟨sameProgram, sameArguments⟩ := Prod.mk.inj same
  rw [text, text, line, line, sameProgram, sameArguments]

theorem IsPlain.text_inj (firstPlain : first.IsPlain)
    (secondPlain : second.IsPlain) :
    first.text = second.text ↔ first.vector = second.vector := by
  constructor
  · intro same
    have read := firstPlain.read?_text
    rw [same, secondPlain.read?_text] at read
    exact (Option.some.inj read).symm
  · exact text_congr

/-- With quotes in an argument, one text can be that of two commands. -/
example :
    (Invocation.mk "echo" ["a ' ' b"] none).text =
      (Invocation.mk "echo" ["a ", " b"] none).text := by
  decide

/-! ## Failures -/

/-- A command fails for its exit code, and the failure shows it by a text. -/
def FailsAs (invocation : Invocation) (command : String) : Prop :=
  ∃ options reply exitCode stderr?,
    invocation.result options reply =
      .error (.commandFailed command exitCode stderr?)

theorem FailsAs.eq_text {command : String}
    (fails : invocation.FailsAs command) :
    command = invocation.text := by
  obtain ⟨options, reply, exitCode, stderr?, result⟩ := fails
  obtain ⟨cause, -, same⟩ | ⟨output, -, -, -, same⟩ :=
    result_eq_error_iff.mp result
  · cases same
  · cases same
    rfl

theorem FailsAs.vector_eq {command : String} (firstPlain : first.IsPlain)
    (secondPlain : second.IsPlain) (firstFails : first.FailsAs command)
    (secondFails : second.FailsAs command) : first.vector = second.vector := by
  rw [← firstPlain.text_inj secondPlain, ← firstFails.eq_text,
    ← secondFails.eq_text]

end Plain

end Invocation

/-! ## Rehearsals -/

namespace Rehearsal

variable {rehearsal : Rehearsal} {invocation : Invocation}

theorem map_read?_lines
    (allPlain : ∀ command ∈ rehearsal.commands, command.IsPlain) :
    rehearsal.lines.map Invocation.read? =
      rehearsal.commands.map fun command => some command.vector := by
  rw [lines, List.map_map, List.map_inj_left]
  exact fun command member => (allPlain command member).read?_text

/-- The place of a text is the place of the first command that is the same but
for where it runs. -/
theorem position?_text (plain : invocation.IsPlain)
    (allPlain : ∀ command ∈ rehearsal.commands, command.IsPlain) :
    rehearsal.position? invocation.text =
      rehearsal.commands.findIdx? fun command =>
        command.vector = invocation.vector := by
  rw [position?, lines]
  generalize rehearsal.commands = commands at allPlain
  induction commands with
  | nil => rfl
  | cons command commands ih =>
      obtain ⟨commandPlain, othersPlain⟩ := List.forall_mem_cons.mp allPlain
      rw [List.map_cons, List.idxOf?_cons, List.findIdx?_cons, ih othersPlain]
      simp only [beq_iff_eq, decide_eq_true_eq, commandPlain.text_inj plain]

end Rehearsal

namespace Invocation

/-- The text of a plain command is read as its program and its arguments, so two
plain commands have one text exactly if they have these in common.  The failure
of a command shows a text that is read in this way, and the texts of a rehearsal
are those of its commands in their order, the first command with a text being
the first one with the program and the arguments in it. -/
theorem text_identifies {first second : Invocation} (firstPlain : first.IsPlain)
    (secondPlain : second.IsPlain) :
    read? first.text = some first.vector ∧
      (first.text = second.text ↔ first.vector = second.vector) ∧
      (∀ (options : RunOptions) (output : CommandOutput),
        options.check = true → output.isSuccess = false →
          ∃ command, first.result options (.ok output) =
              .error (.commandFailed command output.exitCode output.stderr?) ∧
            read? command = some first.vector) ∧
      (∀ command, first.FailsAs command → second.FailsAs command →
        first.vector = second.vector) ∧
      ∀ rehearsal : Rehearsal,
        (∀ command ∈ rehearsal.commands, command.IsPlain) →
        rehearsal.lines.map read? =
          (rehearsal.commands.map fun command => some command.vector) ∧
          rehearsal.position? first.text =
            rehearsal.commands.findIdx? fun command =>
              command.vector = first.vector := by
  refine ⟨firstPlain.read?_text, firstPlain.text_inj secondPlain, ?_, ?_, ?_⟩
  · intro options output isChecked failed
    have fails : first.result options (.ok output) =
        .error (.commandFailed first.text output.exitCode output.stderr?) :=
      result_eq_error_iff.mpr (.inr ⟨output, rfl, isChecked, failed, rfl⟩)
    exact ⟨first.text, fails, firstPlain.read?_text⟩
  · intro command firstFails secondFails
    exact firstFails.vector_eq firstPlain secondPlain secondFails
  · intro rehearsal allPlain
    exact ⟨Rehearsal.map_read?_lines allPlain,
      Rehearsal.position?_text firstPlain allPlain⟩

/-- Empty arguments and blanks of any kind are told apart, and where a command
runs is not. -/
theorem text_identifies_blankArguments :
    let here : Invocation := ⟨"kubectl", ["", "a b", "\u00a0", "-n", "c"], none⟩
    let there : Invocation :=
      ⟨"kubectl", ["", "a b", "\u00a0", "-n", "c"], some ⟨"k8s"⟩⟩
    let apart : Invocation :=
      ⟨"kubectl", ["", "a", "b", "\u00a0", "-n", "c"], none⟩
    let rehearsal : Rehearsal :=
      { Rehearsal.ofScript .empty with commands := [apart, there] }
    here.IsPlain ∧ there.IsPlain ∧ read? here.text = some here.vector ∧
      here.text = there.text ∧ rehearsal.position? here.text = some 1 ∧
      (∃ command, here.result .captured (.ok ⟨2, none, none⟩) =
          .error (.commandFailed command 2 none) ∧
          read? command = some here.vector) ∧
      here.FailsAs here.text ∧ there.FailsAs here.text ∧
      here.vector = there.vector := by
  intro here there apart rehearsal
  have herePlain : here.IsPlain := by decide
  have therePlain : there.IsPlain := by decide
  have allPlain : ∀ command ∈ rehearsal.commands, command.IsPlain := by decide
  have hereFails : here.FailsAs here.text :=
    ⟨.captured, .ok ⟨2, none, none⟩, 2, none, rfl⟩
  have thereFails : there.FailsAs here.text :=
    ⟨.captured, .ok ⟨1, none, none⟩, 1, none, rfl⟩
  obtain ⟨reads, sameText, fails, sameFailure, recorded⟩ :=
    text_identifies herePlain therePlain
  refine ⟨herePlain, therePlain, reads, sameText.mpr rfl, ?_, fails _ _ rfl rfl,
    hereFails, thereFails, sameFailure here.text hereFails thereFails⟩
  rw [(recorded rehearsal allPlain).2]
  decide

end Invocation

end ClusterConsole
