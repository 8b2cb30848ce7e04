import ClusterConsole.Proofs.Overrides.Parsing
import ClusterConsole.Proofs.Secret.Reading
import ClusterConsole.Proofs.Yaml.DoubleQuoted

/-!
# The manifest of the secret as YAML

The value of a credential stands between double quotes.  Only quotes and
backslashes are escaped, so YAML reads the value back as long as no other
character needs an escape.  What does are the control characters, and a source
can have all of them but the line feed.
-/

namespace ClusterConsole.SecretMaterial

open Yaml

/-! ## Scanning what was escaped -/

theorem scan?_escape_cons {char : Char} (printable : isPrintable char = true)
    (value rest : List Char) :
    scan? .plain (escape (char :: value) ++ rest) =
      (scan? .plain (escape value ++ rest)).map fun (later, after) =>
        (.ofChar char :: later, after) := by
  -- An escaped character takes two steps of the scan, and every other one a
  -- single step.
  by_cases isBackslash : char = '\\'
  · subst isBackslash
    simp [escape_backslash, scan?, Step.of?, Step.ofPlain?, Step.ofEscape?,
      Step.named?, Piece.ofChar, Function.comp_def]
  by_cases isQuote : char = '"'
  · subst isQuote
    simp [escape_quote, scan?, Step.of?, Step.ofPlain?, Step.ofEscape?,
      Step.named?, Piece.ofChar, Function.comp_def]
  have noFeed : char ≠ '\n' := by rintro rfl; revert printable; decide
  have noReturn : char ≠ '\r' := by rintro rfl; revert printable; decide
  simp [escape_plain isBackslash isQuote, scan?, Step.of?, Step.ofPlain?,
    isBackslash, isQuote, noFeed, noReturn, printable]

theorem scan?_escape {value : List Char}
    (printable : ∀ char ∈ value, isPrintable char = true) (rest : List Char) :
    scan? .plain (escape value ++ '"' :: rest) =
      some (value.map .ofChar, rest) := by
  induction value with
  | nil => rfl
  | cons char value ih =>
      rw [scan?_escape_cons (printable char List.mem_cons_self),
        ih fun other member => printable other (List.mem_cons_of_mem _ member)]
      rfl

/-- A control character is taken for a line break if it can be read at all. -/
theorem endsLine_of_scan? {char : Char} {rest after : List Char}
    {pieces : List Piece} (hidden : isPrintable char = false)
    (scanned : scan? .plain (char :: rest) = some (pieces, after)) :
    ∃ piece ∈ pieces, piece.endsLine = true := by
  have noQuote : char ≠ '"' := by rintro rfl; revert hidden; decide
  have noBackslash : char ≠ '\\' := by rintro rfl; revert hidden; decide
  have breaks :
      ∃ mode, Step.of? .plain char = some (.goOn [.lineBreak] mode) := by
    by_cases isFeed : char = '\n'
    · subst isFeed
      exact ⟨_, rfl⟩
    by_cases isReturn : char = '\r'
    · subst isReturn
      exact ⟨_, rfl⟩
    simp [scan?, Step.of?, Step.ofPlain?, noQuote, noBackslash, isFeed,
      isReturn, hidden]
      at scanned
  obtain ⟨mode, step⟩ := breaks
  rw [scan?_goOn step, Option.map_eq_some_iff] at scanned
  obtain ⟨_, _, same⟩ := scanned
  exact ⟨.lineBreak, by simp [← (Prod.mk.inj same).1], rfl⟩

theorem printable_of_scan?_escape {value rest after : List Char}
    {pieces : List Piece} (scanned : scan? .plain
        (escape value ++ '"' :: rest) = some (pieces, after))
    (oneLine : ∀ piece ∈ pieces, piece.endsLine = false) :
    ∀ char ∈ value, isPrintable char = true := by
  -- Up to the first character that is not printable, the pieces are those of
  -- the value.
  induction value generalizing pieces with
  | nil => simp
  | cons char value ih =>
      cases printable : isPrintable char with
      | true =>
          rw [scan?_escape_cons printable, Option.map_eq_some_iff] at scanned
          obtain ⟨⟨later, stillAfter⟩, scannedLater, same⟩ := scanned
          obtain ⟨rfl, rfl⟩ := Prod.mk.inj same
          intro other member
          rcases List.mem_cons.mp member with rfl | inValue
          · exact printable
          · exact ih scannedLater (fun piece inLater =>
              oneLine piece (List.mem_cons_of_mem _ inLater)) other inValue
      | false =>
          have noBackslash : char ≠ '\\' := by
            rintro rfl; revert printable; decide
          have noQuote : char ≠ '"' := by rintro rfl; revert printable; decide
          rw [escape_plain noBackslash noQuote] at scanned
          obtain ⟨piece, member, ends⟩ := endsLine_of_scan? printable scanned
          rw [oneLine piece member] at ends
          cases ends

/-! ## The scalar of a credential -/

/-- The manifest up to the scalar of a credential. -/
def upTo (material : SecretMaterial) (namespaceName : String)
    (credential : Credential) :
    List Char :=
  header namespaceName ++
    ((Credential.all.takeWhile (· ≠ credential)).flatMap fun earlier =>
      entryLine earlier (material.value earlier)) ++
    ' ' :: ' ' :: credential.key.toList ++ [':', ' ']

/-- What stands in the manifest for a credential is a scalar on the rest of its
line, and the value of the scalar is that of the credential. -/
def EmitsFaithfully (material : SecretMaterial) (namespaceName : String)
    (credential : Credential) : Prop :=
  ∃ scalar rest,
    Scalar.read? ((material.document namespaceName).drop
      (material.upTo namespaceName credential).length) = some (scalar,
      '\n' :: rest) ∧
    scalar.isSingleLine = true ∧
    scalar.value = (material.value credential).toList

theorem document_eq_upTo_append (material : SecretMaterial)
    (namespaceName : String) (credential : Credential) :
    ∃ rest, material.document namespaceName =
      material.upTo namespaceName credential ++
        '"' :: (escape (material.value credential).toList ++
          '"' :: '\n' :: rest) := by
  cases credential <;>
    simp [document, upTo, entries, entryLine, Credential.all, List.takeWhile]

theorem emitsFaithfully_iff (material : SecretMaterial) (namespaceName : String)
    (credential : Credential) :
    material.EmitsFaithfully namespaceName credential ↔
      ∀ char ∈ (material.value credential).toList, isPrintable char = true := by
  obtain ⟨rest, split⟩ :=
    material.document_eq_upTo_append namespaceName credential
  rw [EmitsFaithfully, split, List.drop_left]
  constructor
  · rintro ⟨scalar, after, read, oneLine, -⟩
    rw [Scalar.read?, Option.map_eq_some_iff] at read
    obtain ⟨⟨pieces, _⟩, scanned, same⟩ := read
    obtain ⟨rfl, -⟩ := Prod.mk.inj same
    refine printable_of_scan?_escape scanned fun piece member => ?_
    simpa using List.all_eq_true.mp oneLine piece member
  · intro printable
    refine ⟨⟨(material.value credential).toList.map .ofChar⟩, rest, ?_, ?_, ?_⟩
    · rw [Scalar.read?, scan?_escape printable]
      rfl
    · simp only [Scalar.isSingleLine, List.all_map, List.all_eq_true]
      intro char _
      rw [Function.comp_apply, Piece.ofChar]
      split <;> rfl
    · exact fold_map_ofChar [] _

theorem printable_fallback (credential : Credential) :
    ∀ char ∈ credential.fallback.toList, isPrintable char = true := by
  rw [← List.all_eq_true]
  cases credential <;> rfl

theorem printable_value_resolve_parse {source : String}
    (printable : ∀ line ∈ Text.charLines source.toList,
      ∀ char ∈ Text.trimChars line,
      isPrintable char = true)
    (credential : Credential) :
    ∀ char ∈ ((resolve (Overrides.parse source)).value credential).toList,
      isPrintable char = true := by
  cases found : (Overrides.parse source).get? credential.key with
  | none => simpa [resolve, found] using printable_fallback credential
  | some value =>
      obtain ⟨line, isLine, sets⟩ := Overrides.exists_line_of_get?_parse found
      intro char member
      have inValue : char ∈ value.toList := by
        simpa [resolve, found] using member
      exact printable line isLine char
        (Overrides.mem_line_of_assignment? sets inValue)

/-- The manifest of a source is faithful as YAML for exactly those credentials
whose value has no control character but tabs; for all of them if, apart from
what is trimmed away, no line of the source has one. -/
theorem manifest_faithful_iff (source namespaceName : String)
    (credential : Credential) :
    let material := resolve (Overrides.parse source)
    material.upTo namespaceName credential <+: material.document namespaceName ∧
    (material.EmitsFaithfully namespaceName credential ↔
      ∀ char ∈ (material.value credential).toList, isPrintable char = true) ∧
    ((∀ line ∈ Text.charLines source.toList, ∀ char ∈ Text.trimChars line,
        isPrintable char = true) →
      material.EmitsFaithfully namespaceName credential) := by
  intro material
  refine ⟨?_, material.emitsFaithfully_iff namespaceName credential,
    fun printable => ?_⟩
  · obtain ⟨rest, split⟩ :=
      material.document_eq_upTo_append namespaceName credential
    exact ⟨_, split.symm⟩
  · exact (material.emitsFaithfully_iff namespaceName credential).mpr
      (printable_value_resolve_parse printable credential)

/-- A carriage return within a value breaks its line, and YAML reads a space for
it. -/
theorem not_emitsFaithfully_of_return :
    let material := resolve (Overrides.parse "POSTGRES_USER=a\rb\n")
    ¬material.EmitsFaithfully "ns" .databaseUser ∧
    (Scalar.read? ((material.document "ns").drop
          (material.upTo "ns" .databaseUser).length)).map
        (fun (scalar, _) => (scalar.isSingleLine, scalar.value)) =
      some (false, "a b".toList) := by
  refine ⟨?_, by decide +kernel⟩
  rw [emitsFaithfully_iff, ← List.all_eq_true]
  decide +kernel

end ClusterConsole.SecretMaterial
