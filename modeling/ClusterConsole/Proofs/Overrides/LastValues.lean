import ClusterConsole.Proofs.Overrides.Parsing
import ClusterConsole.Proofs.Text.Lines
import ClusterConsole.Secret

/-!
# Last values

What a line sets is told without trimming the line first: the parts before and
after its first equals sign count, each without the blanks around it.  The value
of a key is the one that the last line with this key sets, so sources can be put
together and their line endings exchanged.
-/

namespace ClusterConsole.Overrides

/-- The parts of a line before and after its first equals sign.  A line without
one has nothing after it. -/
inductive Parts : List Char → List Char → List Char → Prop where
  | atSign {key value : List Char} (noSign : '=' ∉ key) :
      Parts (key ++ '=' :: value) key value
  | whole {line : List Char} (noSign : '=' ∉ line) : Parts line line []

section Parts

variable {line key value : List Char}

theorem exists_parts (line : List Char) :
    ∃ key value, Parts line key value := by
  by_cases hasSign : '=' ∈ line
  · obtain ⟨key, value, rfl, noSign⟩ := List.eq_append_cons_of_mem hasSign
    exact ⟨key, value, .atSign noSign⟩
  · exact ⟨line, [], .whole hasSign⟩

theorem Parts.scanned (parts : Parts line key value) :
    line.takeWhile (· ≠ '=') = key ∧
    (line.dropWhile (· ≠ '=')).drop 1 = value := by
  cases parts with
  | atSign noSign =>
      rw [Text.takeWhile_append_of_not_mem noSign Text.endsAt_cons,
        Text.dropWhile_append_of_not_mem noSign Text.endsAt_cons]
      simp
  | whole noSign =>
      have kept := Text.takeWhile_append_of_not_mem noSign Text.endsAt_nil
      have dropped := Text.dropWhile_append_of_not_mem noSign Text.endsAt_nil
      rw [List.append_nil] at kept dropped
      rw [kept, dropped]
      simp

/-- The first equals sign stays the first one if there are blanks around the
line. -/
theorem Parts.padded (parts : Parts line key value)
    {before after : List Char} (beforeBlank : before.all Text.isBlank = true)
    (afterBlank : after.all Text.isBlank = true) :
    ∃ wideKey wideValue, Parts (before ++ line ++ after) wideKey wideValue ∧
      Text.trimChars wideKey = Text.trimChars key ∧
      Text.trimChars wideValue = Text.trimChars value := by
  have noSignOf {blanks : List Char}
      (areBlank : blanks.all Text.isBlank = true) :
      '=' ∉ blanks := by
    intro member
    have isBlank := List.all_eq_true.mp areBlank '=' member
    revert isBlank
    decide
  cases parts with
  | atSign noSign =>
      have stillNoSign : '=' ∉ before ++ key := by
        simp [noSignOf beforeBlank, noSign]
      have parts :
          Parts (before ++ key ++ '=' :: (value ++ after)) (before ++ key)
          (value ++ after) := .atSign stillNoSign
      have keyPadded :
          Text.trimChars (before ++ key ++ []) = Text.trimChars key :=
        Text.trimChars_padded beforeBlank rfl
      have valuePadded :
          Text.trimChars ([] ++ value ++ after) = Text.trimChars value :=
        Text.trimChars_padded rfl afterBlank
      exact ⟨before ++ key, value ++ after, by simpa using parts, by
        simpa using keyPadded,
        valuePadded⟩
  | whole noSign =>
      have stillNoSign : '=' ∉ before ++ line ++ after := by
        simp [noSignOf beforeBlank, noSignOf afterBlank, noSign]
      exact ⟨_, [], .whole stillNoSign,
        Text.trimChars_padded beforeBlank afterBlank, rfl⟩

theorem Parts.unique {otherKey otherValue : List Char}
    (parts : Parts line key value) (others : Parts line otherKey otherValue) :
    otherKey = key ∧ otherValue = value := by
  obtain ⟨keyScanned, valueScanned⟩ := parts.scanned
  obtain ⟨otherKeyScanned, otherValueScanned⟩ := others.scanned
  exact ⟨otherKeyScanned.symm.trans keyScanned,
    otherValueScanned.symm.trans valueScanned⟩

end Parts

/-- What a line sets, if it is not blank and its first character that is no
blank does not make it a comment. -/
structure Sets (line : List Char) (key value : String) : Prop where
  isSetting : ∃ first, line.find? (fun char => !Text.isBlank char) =
    some first ∧ first ≠ '#'
  parted : ∃ before after, Parts line before after ∧
    Text.trimChars before = key.toList ∧
    Text.trimChars after = value.toList
  hasKey : key ≠ ""

section Assignment

variable {line : List Char} {key value : String}

theorem assignment?_of_comment (noSetting : ∀ first,
      (Text.trimChars line).head? = some first → first = '#') :
    assignment? line = none := by
  rw [assignment?]
  cases content : Text.trimChars line with
  | nil => rfl
  | cons first rest =>
      have isComment := noSetting first (by simp [content])
      subst isComment
      rfl

theorem assignment?_of_parts {key value : List Char} {first : Char}
    (begins : (Text.trimChars line).head? = some first)
    (noComment : first ≠ '#') (parts : Parts (Text.trimChars line) key value) :
    assignment? line =
      if Text.trimChars key = [] then none
      else
        some (String.ofList (Text.trimChars key),
          String.ofList (Text.trimChars value)) := by
  obtain ⟨keyScanned, valueScanned⟩ := parts.scanned
  rw [assignment?]
  split
  · rename_i none
    simp [none] at begins
  · rename_i comment
    simp [comment] at begins
    exact absurd begins.symm noComment
  · rw [keyScanned, valueScanned]
    split
    · rename_i none
      rw [if_pos none]
    · rename_i some
      rw [if_neg some]

/-- A line that is no comment is read by the parts that it has before it is
trimmed. -/
theorem exists_assignment?_eq {first : Char}
    (begins : (line.find? fun char => !Text.isBlank char) = some first)
    (noComment : first ≠ '#') :
    ∃ before after, Parts line before after ∧
      assignment? line =
        if Text.trimChars before = [] then none
        else
          some (String.ofList (Text.trimChars before),
            String.ofList (Text.trimChars after)) := by
  rw [← Text.head?_trimChars] at begins
  obtain ⟨front, back, frontBlank, backBlank, split⟩ := Text.exists_padding line
  obtain ⟨ownKey, ownValue, parts⟩ := exists_parts (Text.trimChars line)
  obtain ⟨wideKey, wideValue, wide, sameKey, sameValue⟩ :=
    parts.padded frontBlank backBlank
  rw [← split] at wide
  refine ⟨wideKey, wideValue, wide, ?_⟩
  rw [assignment?_of_parts begins noComment parts, sameKey, sameValue]

theorem Sets.assignment?_eq (sets : Sets line key value) :
    assignment? line = some (key, value) := by
  obtain ⟨first, begins, noComment⟩ := sets.isSetting
  obtain ⟨before, after, parts, keyTrimmed, valueTrimmed⟩ := sets.parted
  obtain ⟨ownBefore, ownAfter, ownParts, assigned⟩ :=
    exists_assignment?_eq begins noComment
  obtain ⟨rfl, rfl⟩ := parts.unique ownParts
  have hasKey : ¬ key.toList = [] := by simpa using sets.hasKey
  rw [assigned, keyTrimmed, valueTrimmed, if_neg hasKey, String.ofList_toList,
    String.ofList_toList]

theorem sets_of_assignment?_eq
    (assigned : assignment? line = some (key, value)) :
    Sets line key value := by
  by_cases isSetting :
      ∃ first, line.find? (fun char => !Text.isBlank char) = some first ∧
      first ≠ '#'
  · obtain ⟨first, begins, noComment⟩ := isSetting
    obtain ⟨before, after, parts, whole⟩ :=
      exists_assignment?_eq begins noComment
    rw [whole, Option.ite_none_left_eq_some, Option.some.injEq, Prod.mk.injEq]
      at assigned
    obtain ⟨hasKey, rfl, rfl⟩ := assigned
    constructor
    · exact ⟨first, begins, noComment⟩
    · exact ⟨before, after, parts, by simp, by simp⟩
    · simpa using hasKey
  · have noSetting :
        ∀ first, (Text.trimChars line).head? = some first → first = '#' := by
      intro first begins
      rw [Text.head?_trimChars] at begins
      exact Classical.byContradiction fun noComment =>
        isSetting ⟨first, begins, noComment⟩
    rw [assignment?_of_comment noSetting] at assigned
    cases assigned

theorem assignment?_eq_some_iff :
    assignment? line = some (key, value) ↔ Sets line key value := by
  constructor
  · exact sets_of_assignment?_eq
  · exact Sets.assignment?_eq

/-- The blanks around a line make no difference. -/
theorem assignment?_congr {other : List Char}
    (same : Text.trimChars line = Text.trimChars other) :
    assignment? line = assignment? other := by
  rw [assignment?, same, assignment?]

end Assignment

/-! ## The last line with a key -/

/-- The last line of a source that sets the key sets it to the value. -/
def LastSets (source key value : String) : Prop :=
  ∃ early line late, Text.charLines source.toList = early ++ line :: late ∧
    Sets line key value ∧
    ∀ later ∈ late, ∀ other, ¬ Sets later key other

def setsKey (key : String) (line : List Char) : Bool :=
  (assignment? line).any fun entry => decide (entry.1 = key)

theorem setsKey_iff {key : String} {line : List Char} :
    setsKey key line = true ↔ ∃ value, Sets line key value := by
  simp only [← assignment?_eq_some_iff]
  cases set : assignment? line with
  | none => simp [setsKey, set]
  | some entry =>
      obtain ⟨ownKey, value⟩ := entry
      simp [setsKey, set]

theorem find?_reverse_eq_some_iff {isIt : α → Bool} {items : List α}
    {item : α} :
    items.reverse.find? isIt = some item ↔
      isIt item = true ∧ ∃ early late, items = early ++ item :: late ∧
        ∀ later ∈ late, isIt later = false := by
  rw [List.find?_eq_some_iff_append]
  constructor
  · intro found
    obtain ⟨holds, late, early, split, before⟩ := found
    refine ⟨holds, early.reverse, late.reverse,
      by rw [← List.reverse_inj, split]; simp, ?_⟩
    intro later isLater
    simpa using before later (List.mem_reverse.mp isLater)
  · intro last
    obtain ⟨holds, early, late, split, after⟩ := last
    refine ⟨holds, late.reverse, early.reverse, by simp [split], ?_⟩
    intro later isLater
    simpa using after later (List.mem_reverse.mp isLater)

/-- The line of a source that gives a key its value. -/
def lastLine? (source key : String) : Option (List Char) :=
  (Text.charLines source.toList).reverse.find? (setsKey key)

theorem lastLine?_eq_some_iff {source key : String} {line : List Char} :
    lastLine? source key = some line ↔
      (∃ value, Sets line key value) ∧
        ∃ early late, Text.charLines source.toList = early ++ line :: late ∧
          ∀ later ∈ late, ∀ other, ¬ Sets later key other := by
  simp only [lastLine?, find?_reverse_eq_some_iff, Bool.eq_false_iff, ne_eq,
    setsKey_iff, not_exists]

theorem get?_parse (source key : String) :
    (parse source).get? key = ((lastLine? source key).bind assignment?).map
    (·.2) := by
  rw [parse, get?_ofList, ← List.filterMap_reverse, List.find?_filterMap]
  rfl

theorem get?_parse_eq_some_iff {source key value : String} :
    (parse source).get? key = some value ↔ LastSets source key value := by
  rw [get?_parse]
  constructor
  · intro found
    obtain ⟨⟨ownKey, ownValue⟩, bound, rfl⟩ := Option.map_eq_some_iff.mp found
    obtain ⟨line, last, assigned⟩ := Option.bind_eq_some_iff.mp bound
    obtain ⟨⟨other, sets⟩, early, late, split, after⟩ :=
      lastLine?_eq_some_iff.mp last
    rw [sets.assignment?_eq] at assigned
    cases assigned
    exact ⟨early, line, late, split, sets, after⟩
  · intro lastSets
    obtain ⟨early, line, late, split, sets, after⟩ := lastSets
    have last :=
      lastLine?_eq_some_iff.mpr ⟨⟨value, sets⟩, early, late, split, after⟩
    rw [last, Option.bind_some, sets.assignment?_eq, Option.map_some]

/-! ## Sources put together -/

/-- Blank lines set nothing, and it does not matter how a line ends. -/
theorem filterMap_charLines (chars : List Char) :
    (Text.charLines chars).filterMap assignment? =
      (Text.segments chars).filterMap assignment? := by
  induction chars using Text.line_induction with
  | unended line noFeed =>
      cases line with
      | nil => rfl
      | cons char line =>
          rw [Text.charLines_unended noFeed (by simp),
            Text.segments_eq_singleton noFeed]
  | ended line rest noFeed ih =>
      have same := assignment?_congr (Text.trimChars_dropCarriageReturn line)
      rw [Text.charLines_line noFeed, Text.segments_line noFeed,
        List.filterMap_cons, List.filterMap_cons, ih, same]

theorem filterMap_segments_returned (chars : List Char) :
    (Text.segments (Text.returned chars)).filterMap assignment? =
      (Text.segments chars).filterMap assignment? := by
  induction chars using Text.line_induction with
  | unended line noFeed => rw [Text.returned_of_not_mem noFeed]
  | ended line rest noFeed ih =>
      have stillNoFeed : '\n' ∉ line ++ ['\r'] := by simpa using noFeed
      have trimmed :
          Text.trimChars ([] ++ line ++ ['\r']) = Text.trimChars line :=
        Text.trimChars_padded rfl rfl
      have same := assignment?_congr trimmed
      rw [List.nil_append] at same
      rw [Text.returned_line noFeed, Text.segments_line stillNoFeed,
        Text.segments_line noFeed, List.filterMap_cons, List.filterMap_cons,
        ih, same]

theorem parse_returned (source : String) :
    parse (String.ofList (Text.returned source.toList)) = parse source := by
  rw [parse, parse, filterMap_charLines, filterMap_charLines,
    String.toList_ofList, filterMap_segments_returned]

theorem get?_parse_append (source later key : String) :
    (parse (source ++ "\n" ++ later)).get? key =
      ((parse later).get? key).or ((parse source).get? key) := by
  have joined : (source ++ "\n" ++ later).toList = source.toList ++
      '\n' :: later.toList := by
    simp
  simp only [parse, filterMap_charLines, get?_ofList, joined,
    Text.segments_append_feed, List.filterMap_append, List.reverse_append,
    List.find?_append, Option.map_or]

/-! ## Keys and values -/

/-- A key that a source can give a value. -/
structure IsKey (key : String) : Prop where
  trimmed : Text.trim key = key
  notEmpty : key ≠ ""
  noSign : '=' ∉ key.toList
  noFeed : '\n' ∉ key.toList
  noComment : key.toList.head? ≠ some '#'

/-- A value that a source can give. -/
structure IsValue (value : String) : Prop where
  trimmed : Text.trim value = value
  noFeed : '\n' ∉ value.toList

theorem trim_eq_of_trimChars_eq {chars : List Char} {text : String}
    (trimmed : Text.trimChars chars = text.toList) : Text.trim text = text := by
  rw [Text.trim, ← trimmed, Text.trimChars_trimChars, trimmed,
    String.ofList_toList]

theorem Parts.subset {line key value : List Char}
    (parts : Parts line key value) :
    (∀ char ∈ key, char ∈ line ∧ char ≠ '=') ∧ ∀ char ∈ value, char ∈ line := by
  cases parts with
  | atSign noSign =>
      constructor
      · intro char member
        exact ⟨List.mem_append_left _ member,
          fun same => noSign (same ▸ member)⟩
      · intro char member
        simp [member]
  | whole noSign =>
      constructor
      · intro char member
        exact ⟨member, fun same => noSign (same ▸ member)⟩
      · intro char member
        simp at member

/-- The key begins where the line does, blanks aside. -/
theorem Parts.find?_key {line key value : List Char}
    (parts : Parts line key value) {first : Char}
    (begins : (key.find? fun char => !Text.isBlank char) = some first) :
    (line.find? fun char => !Text.isBlank char) = some first := by
  cases parts with
  | atSign noSign => rw [List.find?_append, begins, Option.some_or]
  | whole noSign => exact begins

theorem Sets.isKey {line : List Char} {key value : String}
    (sets : Sets line key value) (isLine : '\n' ∉ line) : IsKey key := by
  obtain ⟨before, after, parts, keyTrimmed, -⟩ := sets.parted
  have inKey : ∀ char ∈ key.toList, char ∈ line ∧ char ≠ '=' := by
    intro char member
    rw [← keyTrimmed] at member
    exact parts.subset.1 char (Text.mem_of_mem_trimChars member)
  constructor
  · exact trim_eq_of_trimChars_eq keyTrimmed
  · exact sets.hasKey
  · intro member
    exact (inKey '=' member).2 rfl
  · intro member
    exact isLine (inKey '\n' member).1
  · intro begins
    obtain ⟨first, lineBegins, noComment⟩ := sets.isSetting
    rw [← keyTrimmed, Text.head?_trimChars] at begins
    rw [parts.find?_key begins] at lineBegins
    exact noComment (Option.some.inj lineBegins).symm

theorem Sets.isValue {line : List Char} {key value : String}
    (sets : Sets line key value) (isLine : '\n' ∉ line) : IsValue value := by
  obtain ⟨before, after, parts, -, valueTrimmed⟩ := sets.parted
  constructor
  · exact trim_eq_of_trimChars_eq valueTrimmed
  · intro member
    rw [← valueTrimmed] at member
    exact isLine (parts.subset.2 '\n' (Text.mem_of_mem_trimChars member))

theorem LastSets.isKey_isValue {source key value : String}
    (lastSets : LastSets source key value) :
    IsKey key ∧ IsValue value := by
  obtain ⟨early, line, late, split, sets, -⟩ := lastSets
  have isLine : '\n' ∉ line := by
    apply Text.not_mem_of_mem_charLines
    rw [split]
    simp
  exact ⟨sets.isKey isLine, sets.isValue isLine⟩

theorem resolve_parse_congr {source other : String}
    (same : ∀ credential : Credential, ∀ value,
      LastSets source credential.key value ↔
        LastSets other credential.key value) :
    SecretMaterial.resolve (parse source) =
      SecretMaterial.resolve (parse other) := by
  have values (credential : Credential) :
      (parse source).get? credential.key =
        (parse other).get? credential.key := by
    apply Option.ext
    intro value
    rw [get?_parse_eq_some_iff, get?_parse_eq_some_iff]
    exact same credential value
  simp only [SecretMaterial.resolve, values]

/-- A source gives a key the value that the last line with this key sets.  So a
later source overrides an earlier one that it is appended to, the carriage
returns at the ends of lines do not matter, keys and values are tidy, and the
secret hangs on nothing but the last values of the credentials. -/
theorem parse_exact (source : String) :
    (∀ key value, (parse source).get? key = some value ↔
      LastSets source key value) ∧
      (∀ later key, (parse (source ++ "\n" ++ later)).get? key =
        ((parse later).get? key).or ((parse source).get? key)) ∧
      parse (String.ofList (Text.returned source.toList)) = parse source ∧
      (∀ key value, (parse source).get? key = some value → IsKey key ∧
        IsValue value) ∧
      ∀ other, (∀ credential : Credential, ∀ value,
          LastSets source credential.key value ↔
            LastSets other credential.key value) →
        ∀ namespaceName,
          (SecretMaterial.resolve (parse source)).render namespaceName =
            (SecretMaterial.resolve (parse other)).render namespaceName := by
  refine ⟨fun key value => get?_parse_eq_some_iff, get?_parse_append source,
    parse_returned source, ?_, ?_⟩
  · intro key value found
    exact (get?_parse_eq_some_iff.mp found).isKey_isValue
  · intro other same namespaceName
    rw [resolve_parse_congr same]

/-- The last line wins over an earlier one and over a comment, and what no
credential has for its key does not show in the secret. -/
theorem parse_exact_repeated :
    (parse "A=1\r\n A = b=c\n # A=2").get? "A" = some "b=c" ∧ IsKey "A" ∧
    IsValue "b=c" ∧
      (SecretMaterial.resolve (parse "A=1\r\n A = b=c\n # A=2")).render "ns" =
        (SecretMaterial.resolve (parse "")).render "ns" := by
  obtain ⟨finds, _, _, tidy, shows⟩ := parse_exact "A=1\r\n A = b=c\n # A=2"
  obtain ⟨findsNothing, -⟩ := parse_exact ""
  have found : (parse "A=1\r\n A = b=c\n # A=2").get? "A" = some "b=c" := by
    decide +kernel
  have same (credential : Credential) :
      (parse "A=1\r\n A = b=c\n # A=2").get? credential.key =
        (parse "").get? credential.key := by
    cases credential <;> decide +kernel
  refine ⟨found, (tidy _ _ found).1, (tidy _ _ found).2, shows "" ?_ "ns"⟩
  intro credential value
  rw [← finds, ← findsNothing, same]

end ClusterConsole.Overrides
