import ClusterConsole.Toml.Document

/-!
# Distinct keys

No table of a document has a key twice, however deep it lies: a table that is
put together gets a new entry only under a key that it does not have yet.
-/

namespace ClusterConsole.Toml

/-- Entries without a key that is there twice, whose contents all have some
property. -/
structure Tidy (holds : α → Prop) (entries : List (String × α)) : Prop where
  distinct : (entries.map Prod.fst).Nodup
  each : ∀ entry ∈ entries, holds entry.2

/-- No table in a value has a key twice. -/
inductive Value.Proper : Value → Prop where
  | string (text : String) : Proper (.string text)
  | integer (number : Int) : Proper (.integer number)
  | float (number : Binary64) : Proper (.float number)
  | boolean (value : Bool) : Proper (.boolean value)
  | moment (text : String) : Proper (.moment text)
  | array {items : List Value} (each : ∀ item ∈ items, Proper item) :
      Proper (.array items)
  | table {entries : List (String × Value)}
      (distinct : (entries.map Prod.fst).Nodup)
      (each : ∀ entry ∈ entries, Proper entry.2) : Proper (.table entries)

/-- No table in a node has a key twice. -/
inductive Node.Proper : Node → Prop where
  | value {value : Value} (proper : value.Proper) : Proper (.value value)
  | table (origin : Origin) {entries : List (String × Node)}
      (distinct : (entries.map Prod.fst).Nodup)
      (each : ∀ entry ∈ entries, Proper entry.2) :
      Proper (.table origin entries)
  | tables {elements : List (List (String × Node))}
      (distinct : ∀ element ∈ elements, (element.map Prod.fst).Nodup)
      (each : ∀ element ∈ elements, ∀ entry ∈ element, Proper entry.2) :
        Proper (.tables elements)

theorem Node.Proper.entries {origin : Origin} {entries : List (String × Node)}
    (proper : (Node.table origin entries).Proper) :
    Tidy Node.Proper entries := by
  cases proper with
  | table origin distinct each => exact ⟨distinct, each⟩

theorem Node.Proper.elements {elements : List (List (String × Node))}
    (proper : (Node.tables elements).Proper) :
    ∀ element ∈ elements, Tidy Node.Proper element := by
  cases proper with
  | tables distinct each =>
      intro element member
      exact ⟨distinct element member, each element member⟩

/-! ## Entries -/

section Entries

variable {entries : List (String × Node)} {key : String} {node : Node}

theorem mem_of_lookupNode (found : lookupNode key entries = some node) :
    (key, node) ∈ entries := by
  induction entries with
  | nil => cases found
  | cons entry rest ih =>
      rw [lookupNode] at found
      split at found
      · rename_i same
        cases found
        exact same ▸ List.mem_cons_self
      · exact List.mem_cons_of_mem _ (ih found)

theorem not_mem_keys_of_lookupNode (isNew : lookupNode key entries = none) :
    key ∉ entries.map Prod.fst := by
  induction entries with
  | nil => exact List.not_mem_nil
  | cons entry rest ih =>
      rw [lookupNode] at isNew
      split at isNew
      · cases isNew
      · rename_i other
        rw [List.map_cons, List.mem_cons, not_or]
        exact ⟨fun same => other same.symm, ih isNew⟩

theorem Tidy.found {holds : Node → Prop} (tidy : Tidy holds entries)
    (found : lookupNode key entries = some node) : holds node :=
  tidy.each _ (mem_of_lookupNode found)

theorem mem_putNode {entry : String × Node}
    (member : entry ∈ putNode key node entries) :
    entry = (key, node) ∨ entry ∈ entries := by
  induction entries with
  | nil => exact .inl (List.mem_singleton.mp member)
  | cons first rest ih =>
      rw [putNode] at member
      split at member
      · rcases List.mem_cons.mp member with same | inRest
        · exact .inl same
        · exact .inr (List.mem_cons_of_mem _ inRest)
      · rcases List.mem_cons.mp member with same | inRest
        · exact .inr (same ▸ List.mem_cons_self)
        · exact (ih inRest).imp_right (List.mem_cons_of_mem _)

theorem Tidy.put {holds : Node → Prop} (tidy : Tidy holds entries)
    (isFine : holds node) :
    Tidy holds (putNode key node entries) := by
  constructor
  · induction entries with
    | nil => simp [putNode]
    | cons first rest ih =>
        obtain ⟨isOther, distinct⟩ := List.nodup_cons.mp tidy.distinct
        rw [putNode]
        split
        · rename_i same
          exact List.nodup_cons.mpr ⟨same ▸ isOther, distinct⟩
        · rename_i notSame
          refine List.nodup_cons.mpr ⟨?_, ih ⟨distinct, fun entry member =>
            tidy.each entry (List.mem_cons_of_mem _ member)⟩⟩
          intro again
          obtain ⟨entry, member, sameKey⟩ := List.mem_map.mp again
          rcases mem_putNode member with rfl | inRest
          · exact notSame sameKey.symm
          · exact isOther (sameKey ▸ List.mem_map_of_mem inRest)
  · intro entry member
    rcases mem_putNode member with rfl | inEntries
    · exact isFine
    · exact tidy.each entry inEntries

theorem Tidy.add {holds : Node → Prop} (tidy : Tidy holds entries)
    (isNew : lookupNode key entries = none) (isFine : holds node) :
    Tidy holds (entries ++ [(key, node)]) := by
  constructor
  · rw [List.map_append, List.nodup_append]
    refine ⟨tidy.distinct, by simp, ?_⟩
    intro other inEntries own isOwn same
    have isKey : other = key := same.trans (List.mem_singleton.mp isOwn)
    exact not_mem_keys_of_lookupNode isNew (isKey ▸ inEntries)
  · intro entry member
    rcases List.mem_append.mp member with inEntries | isOwn
    · exact tidy.each entry inEntries
    · cases List.mem_singleton.mp isOwn
      exact isFine

theorem Tidy.remove {holds : Node → Prop} (tidy : Tidy holds entries)
    (key : String) :
    Tidy holds (removeNode key entries) := by
  constructor
  · exact tidy.distinct.sublist (List.filter_sublist.map Prod.fst)
  · intro entry member
    exact tidy.each entry ((List.mem_filter.mp member).1)

end Entries

/-! ## Tables under construction -/

/-- No table in a table under construction has a key twice. -/
def ProperDraft (draft : Draft) : Prop :=
  Tidy Node.Proper draft.2

theorem properDraft_nil (origin : Origin) : ProperDraft (origin, []) :=
  ⟨List.nodup_nil, nofun⟩

theorem properDraft_changeAt {step : Origin} {change : Draft → Option Draft}
    (keeps : ∀ draft changed, ProperDraft draft → change draft = some changed →
      ProperDraft changed)
    (path : List String) {draft changed : Draft} (proper : ProperDraft draft)
    (changes : changeAt step change path draft = some changed) :
    ProperDraft changed := by
  induction path generalizing draft changed with
  | nil => exact keeps draft changed proper changes
  | cons key path ih =>
      obtain ⟨origin, entries⟩ := draft
      rw [changeAt] at changes
      split at changes
      -- The key is new, and the path goes on in an empty table.
      · obtain ⟨child, changesChild, isChanged⟩ :=
          Option.bind_eq_some_iff.mp changes
        cases isChanged
        have childProper := ih (properDraft_nil step) changesChild
        exact proper.put (.table _ childProper.distinct childProper.each)
      · cases changes
      · rename_i childOrigin child found
        split at changes
        · cases changes
        · obtain ⟨changedChild, changesChild, isChanged⟩ :=
            Option.bind_eq_some_iff.mp changes
          cases isChanged
          have before : ProperDraft (childOrigin, child) :=
            (proper.found found).entries
          have childProper := ih before changesChild
          exact proper.put (.table _ childProper.distinct childProper.each)
      -- Of an array of tables the last one is changed.
      · rename_i elements found
        have each := (proper.found found).elements
        split at changes
        · cases changes
        · rename_i last earlier order
          obtain ⟨changedLast, changesLast, isChanged⟩ :=
            Option.bind_eq_some_iff.mp changes
          cases isChanged
          have isElement :
              ∀ element ∈ last :: earlier, Tidy Node.Proper element := by
            intro element member
            exact each element (List.mem_reverse.mp (order ▸ member))
          have before : ProperDraft (.written, last) :=
            isElement last List.mem_cons_self
          have lastProper := ih before changesLast
          have all :
              ∀ element ∈ (changedLast.2 :: earlier).reverse,
              Tidy Node.Proper element := by
            intro element member
            rcases List.mem_cons.mp (List.mem_reverse.mp member) with rfl |
              isEarlier
            · exact lastProper
            · exact isElement element (List.mem_cons_of_mem _ isEarlier)
          exact proper.put
            (.tables (fun element member => (all element member).distinct)
            fun element member => (all element member).each)

theorem properDraft_addKey {viaPath : Bool} {key : String} {node : Node}
    (isFine : node.Proper) (draft changed : Draft) (proper : ProperDraft draft)
    (adds : addKey viaPath key node draft = some changed) :
    ProperDraft changed := by
  rw [addKey] at adds
  split at adds
  · cases adds
  · split at adds
    · cases adds
    · rename_i isNew
      cases adds
      exact proper.add isNew isFine

theorem properDraft_assign {path : List String} {key : String} {value : Value}
    (isFine : value.Proper) {draft changed : Draft} (proper : ProperDraft draft)
    (assigns : assign path key value draft = some changed) :
    ProperDraft changed :=
  properDraft_changeAt (properDraft_addKey (.value isFine)) path proper assigns

/-! ## Finished tables -/

theorem entriesToValues_eq_map (entries : List (String × Node)) :
    entriesToValues entries = entries.map fun entry =>
      (entry.1, entry.2.toValue) := by
  induction entries with
  | nil => rw [entriesToValues, List.map_nil]
  | cons entry rest ih => rw [entriesToValues, ih, List.map_cons]

theorem elementsToValues_eq_map (elements : List (List (String × Node))) :
    elementsToValues elements = elements.map fun entries =>
      .table (entriesToValues entries) := by
  induction elements with
  | nil => rw [elementsToValues, List.map_nil]
  | cons entries rest ih => rw [elementsToValues, ih, List.map_cons]

theorem keys_entriesToValues (entries : List (String × Node)) :
    (entriesToValues entries).map Prod.fst = entries.map Prod.fst := by
  rw [entriesToValues_eq_map, List.map_map]
  rfl

theorem Node.Proper.toValue {node : Node} (proper : node.Proper) :
    node.toValue.Proper := by
  have finished :
      ∀ {entries : List (String × Node)}, (entries.map Prod.fst).Nodup →
      (∀ entry ∈ entries, entry.2.toValue.Proper) →
      (Value.table (entriesToValues entries)).Proper := by
    intro entries distinct each
    refine .table (by rwa [keys_entriesToValues]) ?_
    intro entry member
    rw [entriesToValues_eq_map] at member
    obtain ⟨own, isOwn, rfl⟩ := List.mem_map.mp member
    exact each own isOwn
  induction proper with
  | value proper => exact proper
  | table origin distinct each ih => exact finished distinct ih
  | tables distinct each ih =>
      rw [Node.toValue, elementsToValues_eq_map]
      apply Value.Proper.array
      intro item member
      obtain ⟨element, isElement, rfl⟩ := List.mem_map.mp member
      exact finished (distinct element isElement) (ih element isElement)

theorem ProperDraft.table {draft : Draft} (proper : ProperDraft draft) :
    (Value.table (entriesToValues draft.2)).Proper :=
  Node.Proper.toValue (.table .written proper.distinct proper.each)

/-! ## What is read -/

/-- Whether only such values are read of which no table has a key twice. -/
def ReadsProper (reader : Reader Value) : Prop :=
  ∀ chars value rest, reader chars = some (value, rest) → value.Proper

section Readers

variable {value : Reader Value}

theorem proper_decimalFloat? {negative : Bool}
    {figures : List Char} {power : Int} {item : Value}
    (found : decimalFloat? negative figures power = some item) :
    item.Proper := by
  rw [decimalFloat?] at found
  split at found
  · cases found
  · cases found
    exact .float _

theorem proper_decimalFloat {chars rest : List Char} {item : Value}
    (found : decimalFloat chars = some (some (item, rest))) : item.Proper := by
  rw [decimalFloat] at found
  obtain ⟨negative, unsigned⟩ := sign chars
  dsimp only at found
  split at found
  · cases found
  · obtain ⟨fraction, -, found⟩ :=
      Option.bind_eq_some_iff.mp (Option.some.inj found)
    split at found
    · obtain ⟨power, -, found⟩ := Option.bind_eq_some_iff.mp found
      obtain ⟨own, isFloat, isRead⟩ := Option.bind_eq_some_iff.mp found
      cases isRead
      exact proper_decimalFloat? isFloat
    · obtain ⟨power, -, found⟩ := Option.bind_eq_some_iff.mp found
      obtain ⟨own, isFloat, isRead⟩ := Option.bind_eq_some_iff.mp found
      cases isRead
      exact proper_decimalFloat? isFloat
  · split at found
    · obtain ⟨power, -, found⟩ :=
        Option.bind_eq_some_iff.mp (Option.some.inj found)
      obtain ⟨own, isFloat, isRead⟩ := Option.bind_eq_some_iff.mp found
      cases isRead
      exact proper_decimalFloat? isFloat
    · cases found

theorem readsProper_wordFloat : ReadsProper wordFloat := by
  intro chars item rest found
  rw [wordFloat] at found
  obtain ⟨negative, unsigned⟩ := sign chars
  dsimp only at found
  split at found
  · cases found
    exact .float _
  · obtain ⟨after, -, isRead⟩ := Option.map_eq_some_iff.mp found
    cases isRead
    exact .float _

theorem readsProper_markedInteger (base : Nat) (isDigit : Char → Bool) :
    ReadsProper (markedInteger base isDigit) := by
  intro chars item rest found
  obtain ⟨figures, -, found⟩ := Option.bind_eq_some_iff.mp found
  obtain ⟨number, -, isRead⟩ := Option.bind_eq_some_iff.mp found
  cases isRead
  exact .integer _

theorem readsProper_integer : ReadsProper integer := by
  intro chars item rest found
  rw [integer.eq_def] at found
  split at found
  · exact readsProper_markedInteger _ _ _ _ _ found
  · exact readsProper_markedInteger _ _ _ _ _ found
  · exact readsProper_markedInteger _ _ _ _ _ found
  · obtain ⟨negative, unsigned⟩ := sign chars
    obtain ⟨figures, -, found⟩ := Option.bind_eq_some_iff.mp found
    obtain ⟨number, -, isRead⟩ := Option.bind_eq_some_iff.mp found
    cases isRead
    exact .integer _

theorem readsProper_timeOfDate (dateText : List Char) :
    ReadsProper (timeOfDate dateText) := by
  intro chars item rest found
  rw [timeOfDate.eq_def] at found
  split at found
  · split at found
    · obtain ⟨timeText, -, found⟩ := Option.bind_eq_some_iff.mp found
      obtain ⟨offsetText, -, isRead⟩ := Option.bind_eq_some_iff.mp found
      cases isRead
      exact .moment _
    · cases found
      exact .moment _
  · cases found
    exact .moment _

theorem readsProper_numeral : ReadsProper numeral := by
  intro chars item rest found
  rw [numeral] at found
  split at found
  · obtain ⟨dateText, -, found⟩ := Option.bind_eq_some_iff.mp found
    exact readsProper_timeOfDate _ _ _ _ found
  · split at found
    · obtain ⟨timeText, -, isRead⟩ := Option.bind_eq_some_iff.mp found
      cases isRead
      exact .moment _
    · split at found
      · rename_i isFloat
        exact proper_decimalFloat (isFloat.trans (congrArg some found))
      · cases isWord : wordFloat chars with
        | some own =>
            rw [isWord] at found
            exact readsProper_wordFloat _ _ _ (isWord.trans found)
        | none =>
            rw [isWord] at found
            exact readsProper_integer _ _ _ found

theorem readsProper_plainValue : ReadsProper plainValue := by
  intro chars item rest found
  rw [plainValue.eq_def] at found
  split at found
  · obtain ⟨text, -, isRead⟩ := Option.map_eq_some_iff.mp found
    cases isRead
    exact .string _
  · obtain ⟨text, -, isRead⟩ := Option.map_eq_some_iff.mp found
    cases isRead
    exact .string _
  · obtain ⟨after, -, isRead⟩ := Option.map_eq_some_iff.mp found
    cases isRead
    exact .boolean _
  · obtain ⟨after, -, isRead⟩ := Option.map_eq_some_iff.mp found
    cases isRead
    exact .boolean _
  · exact readsProper_numeral _ _ _ found

theorem proper_arrayItems (reads : ReadsProper value)
    (fuel : Nat) {chars rest : List Char} {items : List Value}
    (found : arrayItems value fuel chars = some (items, rest)) :
    ∀ item ∈ items, item.Proper := by
  induction fuel generalizing chars items with
  | zero => cases found
  | succ fuel ih =>
      rw [arrayItems] at found
      split at found
      · cases found
        nofun
      · obtain ⟨⟨first, after⟩, readsFirst, found⟩ :=
          Option.bind_eq_some_iff.mp found
        have firstProper := reads _ _ _ readsFirst
        dsimp only at found
        split at found
        · obtain ⟨⟨others, end_⟩, readsOthers, isRead⟩ :=
            Option.bind_eq_some_iff.mp found
          cases isRead
          intro item member
          rcases List.mem_cons.mp member with rfl | isOther
          · exact firstProper
          · exact ih readsOthers item isOther
        · cases found
          intro item member
          cases List.mem_singleton.mp member
          exact firstProper
        · cases found

theorem proper_assignment (reads : ReadsProper value) {chars rest : List Char}
    {path : List String} {key : String} {item : Value}
    (found : assignment value chars = some ((path, key, item), rest)) :
    item.Proper := by
  obtain ⟨⟨⟨ownPath, name⟩, afterKey⟩, -, found⟩ :=
    Option.bind_eq_some_iff.mp found
  obtain ⟨afterSign, -, found⟩ := Option.bind_eq_some_iff.mp found
  obtain ⟨⟨own, afterValue⟩, readsOwn, isRead⟩ :=
    Option.bind_eq_some_iff.mp found
  cases isRead
  exact reads _ _ _ readsOwn

theorem properDraft_inlineEntries (reads : ReadsProper value) (fuel : Nat)
    {draft filled : Draft} {chars rest : List Char} (proper : ProperDraft draft)
    (found : inlineEntries value fuel draft chars = some (filled, rest)) :
    ProperDraft filled := by
  induction fuel generalizing draft chars with
  | zero => cases found
  | succ fuel ih =>
      rw [inlineEntries] at found
      obtain ⟨⟨⟨path, key, item⟩, afterItem⟩, assigns, found⟩ :=
        Option.bind_eq_some_iff.mp found
      obtain ⟨longer, isLonger, found⟩ := Option.bind_eq_some_iff.mp found
      have longerProper :=
        properDraft_assign (proper_assignment reads assigns) proper isLonger
      split at found
      · exact ih longerProper found
      · cases found
        exact longerProper
      · cases found

theorem readsProper_inlineTable (reads : ReadsProper value) :
    ReadsProper (inlineTable value) := by
  intro chars item rest found
  rw [inlineTable] at found
  split at found
  · cases found
    exact .table List.nodup_nil nofun
  · obtain ⟨⟨⟨origin, entries⟩, after⟩, fills, isRead⟩ :=
      Option.bind_eq_some_iff.mp found
    cases isRead
    exact (properDraft_inlineEntries reads _ (properDraft_nil .written)
        fills).table

theorem readsProper_value (depth : Nat) : ReadsProper (Toml.value depth) := by
  induction depth with
  | zero =>
      intro chars item rest found
      rw [Toml.value.eq_def] at found
      dsimp only at found
      split at found
      · cases found
      · cases found
      · exact readsProper_plainValue _ _ _ found
  | succ depth ih =>
      intro chars item rest found
      rw [Toml.value.eq_def] at found
      dsimp only at found
      split at found
      · obtain ⟨⟨items, after⟩, readsItems, isRead⟩ :=
          Option.map_eq_some_iff.mp found
        cases isRead
        exact .array (proper_arrayItems ih _ readsItems)
      · exact readsProper_inlineTable ih _ _ _ found
      · exact readsProper_plainValue _ _ _ found

end Readers

/-- No table in what a line assigns has a key twice. -/
def Statement.Proper : Statement → Prop
  | .assign _ _ value => value.Proper
  | _ => True

theorem proper_statement {chars rest : List Char} {line : Statement}
    (found : statement chars = some (line, rest)) : line.Proper := by
  rw [statement.eq_def] at found
  split at found
  · obtain ⟨⟨⟨path, name⟩, afterKey⟩, -, found⟩ :=
      Option.bind_eq_some_iff.mp found
    obtain ⟨afterEnd, -, isRead⟩ := Option.bind_eq_some_iff.mp found
    cases isRead
    trivial
  · obtain ⟨⟨⟨path, name⟩, afterKey⟩, -, found⟩ :=
      Option.bind_eq_some_iff.mp found
    obtain ⟨afterEnd, -, isRead⟩ := Option.bind_eq_some_iff.mp found
    cases isRead
    trivial
  · obtain ⟨⟨⟨path, name, item⟩, after⟩, assigns, isRead⟩ :=
      Option.bind_eq_some_iff.mp found
    cases isRead
    exact proper_assignment (readsProper_value _) assigns

theorem proper_statements (fuel : Nat) {chars : List Char}
    {lines : List Statement} (found : statements fuel chars = some lines) :
    ∀ line ∈ lines, line.Proper := by
  induction fuel generalizing chars lines with
  | zero => cases found
  | succ fuel ih =>
      rw [statements] at found
      split at found
      · cases found
        nofun
      · obtain ⟨after, -, found⟩ := Option.bind_eq_some_iff.mp found
        exact ih found
      · split at found
        · exact ih found
        · obtain ⟨⟨first, afterFirst⟩, readsFirst, found⟩ :=
            Option.bind_eq_some_iff.mp found
          obtain ⟨after, -, found⟩ := Option.bind_eq_some_iff.mp found
          obtain ⟨others, readsOthers, isRead⟩ :=
            Option.bind_eq_some_iff.mp found
          cases isRead
          intro line member
          rcases List.mem_cons.mp member with rfl | isOther
          · exact proper_statement readsFirst
          · exact ih readsOthers line isOther

/-! ## Documents -/

/-- No table in a document under construction has a key twice. -/
structure Builder.Proper (builder : Builder) : Prop where
  finished : ProperDraft builder.finished
  opened : ProperDraft builder.opened

theorem Builder.Proper.close {builder : Builder} (proper : builder.Proper)
    {draft : Draft} (closes : builder.close = some draft) :
    ProperDraft draft := by
  rw [Builder.close] at closes
  split at closes
  · cases closes
    exact proper.opened
  · refine properDraft_changeAt ?_ _ proper.finished closes
    intro parent changed parentProper changes
    cases changes
    exact parentProper.put (.table _ proper.opened.distinct proper.opened.each)
  · refine properDraft_changeAt ?_ _ proper.finished closes
    intro parent changed parentProper changes
    split at changes
    · rename_i elements found
      cases changes
      have all : ∀ element ∈ elements ++ [builder.opened.2],
          Tidy Node.Proper element := by
        intro element member
        rcases List.mem_append.mp member with isOld | isNew
        · exact (parentProper.found found).elements element isOld
        · cases List.mem_singleton.mp isNew
          exact proper.opened
      exact parentProper.put
        (.tables (fun element member => (all element member).distinct)
        fun element member => (all element member).each)
    · cases changes

theorem properDraft_nodeAt (path : List String)
    (key : String) {entries : List (String × Node)}
    (proper : Tidy Node.Proper entries) {node : Node}
    (found : Builder.openTable.nodeAt path key entries = some (some node)) :
    node.Proper := by
  induction path generalizing entries with
  | nil =>
      rw [Builder.openTable.nodeAt] at found
      exact proper.found (Option.some.inj found)
  | cons step path ih =>
      rw [Builder.openTable.nodeAt] at found
      split at found
      · rename_i origin child isThere
        exact ih (proper.found isThere).entries found
      · rename_i elements isThere
        split at found
        · rename_i last isLast
          exact ih ((proper.found isThere).elements last
              (List.mem_of_getLast? isLast)) found
        · cases found
      · cases found

theorem proper_openTable {path : List String} {key : String}
    {finished : Draft} (proper : ProperDraft finished) {builder : Builder}
    (opens : Builder.openTable path key finished = some builder) :
    builder.Proper := by
  obtain ⟨parent, opensParent, opens⟩ := Option.bind_eq_some_iff.mp opens
  have parentProper : ProperDraft parent :=
    properDraft_changeAt (fun draft changed own same =>
      Option.some.inj same ▸ own) path proper
      opensParent
  obtain ⟨found, isFound, opens⟩ := Option.bind_eq_some_iff.mp opens
  split at opens
  · cases opens
    exact ⟨parentProper, properDraft_nil _⟩
  · obtain ⟨without, removes, isOpened⟩ := Option.bind_eq_some_iff.mp opens
    cases isOpened
    refine ⟨properDraft_changeAt ?_ path parentProper removes,
      (properDraft_nodeAt path key parentProper isFound).entries⟩
    intro own changed ownProper changes
    cases changes
    exact ownProper.remove key
  · cases opens

theorem proper_openElement {path : List String} {key : String}
    {finished : Draft} (proper : ProperDraft finished) {builder : Builder}
    (opens : Builder.openElement path key finished = some builder) :
    builder.Proper := by
  obtain ⟨parent, opensParent, isOpened⟩ := Option.bind_eq_some_iff.mp opens
  cases isOpened
  refine ⟨properDraft_changeAt ?_ path proper opensParent, properDraft_nil _⟩
  intro own changed ownProper changes
  split at changes
  · rename_i isNew
    cases changes
    exact ownProper.add isNew (.tables nofun nofun)
  · cases changes
    exact ownProper
  · cases changes

theorem Builder.Proper.step {builder : Builder} (proper : builder.Proper)
    {line : Statement} (isFine : line.Proper) {changed : Builder}
    (steps : builder.step line = some changed) :
    changed.Proper := by
  cases line with
  | assign path key value =>
      obtain ⟨opened, assigns, isChanged⟩ := Option.bind_eq_some_iff.mp steps
      cases isChanged
      exact ⟨proper.finished, properDraft_assign isFine proper.opened assigns⟩
  | table path key =>
      obtain ⟨finished, closes, opens⟩ := Option.bind_eq_some_iff.mp steps
      exact proper_openTable (proper.close closes) opens
  | element path key =>
      obtain ⟨finished, closes, opens⟩ := Option.bind_eq_some_iff.mp steps
      exact proper_openElement (proper.close closes) opens

theorem Builder.Proper.run {builder : Builder} (proper : builder.Proper)
    {lines : List Statement} (areFine : ∀ line ∈ lines, line.Proper)
    {finished : Builder} (runs : builder.run lines = some finished) :
    finished.Proper := by
  induction lines generalizing builder with
  | nil =>
      cases runs
      exact proper
  | cons line lines ih =>
      obtain ⟨changed, steps, goesOn⟩ := Option.bind_eq_some_iff.mp runs
      exact ih (proper.step (areFine line List.mem_cons_self) steps)
        (fun later member =>
          areFine later (List.mem_cons_of_mem _ member)) goesOn

/-- No table of a document has a key twice. -/
theorem proper_parse {text : String} {entries : List (String × Value)}
    (isDocument : parse? text = some entries) :
    (Value.table entries).Proper := by
  obtain ⟨lines, reads, isDocument⟩ := Option.bind_eq_some_iff.mp isDocument
  obtain ⟨builder, runs, isDocument⟩ := Option.bind_eq_some_iff.mp isDocument
  obtain ⟨draft, closes, isDocument⟩ := Option.bind_eq_some_iff.mp isDocument
  cases isDocument
  have start : Builder.start.Proper := ⟨properDraft_nil _, properDraft_nil _⟩
  exact ((start.run (proper_statements _ reads) runs).close closes).table

end ClusterConsole.Toml
