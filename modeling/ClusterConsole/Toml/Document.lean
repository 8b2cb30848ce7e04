import ClusterConsole.Toml.Statement

/-!
# Documents

The lines of a document are carried out one after the other.  A header opens a
table, and the lines up to the next header fill it before it takes its place.
-/

namespace ClusterConsole.Toml

/-- Where the open table belongs. -/
inductive Place where
  | root
  | table (path : List String) (key : String)
  | element (path : List String) (key : String)

/-- A document under construction: the finished tables, and the open one. -/
structure Builder where
  finished : Draft
  opened : Draft
  place : Place

namespace Builder

/-- Nothing but the table of the whole document, still open. -/
def start : Builder := ⟨(.written, []), (.written, []), .root⟩

def close (builder : Builder) : Option Draft :=
  match builder.place with
  | .root => some builder.opened
  | .table path key =>
    changeAt .implied
      (fun parent => some (parent.1,
          putNode key (.table .written builder.opened.2) parent.2))
      path builder.finished
  | .element path key =>
    changeAt .implied
      (fun parent =>
        match lookupNode key parent.2 with
        | some (.tables elements) =>
          some (parent.1, putNode key (.tables (elements ++ [builder.opened.2]))
              parent.2)
        | _ => none)
      path builder.finished

/-- Opens the table of a header.  One that is there already has to be implied,
and keeps what it holds, but moves to the end. -/
def openTable (path : List String) (key : String) (finished : Draft) :
    Option Builder := do
  let parentOpened ← changeAt .implied some path finished
  let found ← nodeAt path key parentOpened.2
  match found with
  | none => return ⟨parentOpened, (.written, []), .table path key⟩
  | some (.table .implied entries) => do
    let without ← changeAt .implied
      (fun parent => some (parent.1, removeNode key parent.2)) path parentOpened
    return ⟨without, (.written, entries), .table path key⟩
  | some _ => none
where
  /-- The node under a key at the end of a path that is there. -/
  nodeAt : List String → String → List (String × Node) → Option (Option Node)
    | [], key, entries => some (lookupNode key entries)
    | step :: path, key, entries =>
      match lookupNode step entries with
      | some (.table _ child) => nodeAt path key child
      | some (.tables elements) =>
        match elements.getLast? with
        | some last => nodeAt path key last
        | none => none
      | _ => none

/-- Opens a new element of an array of tables, which may be a new one. -/
def openElement (path : List String) (key : String) (finished : Draft) :
    Option Builder := do
  let finished ← changeAt .implied
    (fun parent =>
      match lookupNode key parent.2 with
      | none => some (parent.1, parent.2 ++ [(key, .tables [])])
      | some (.tables _) => some parent
      | some _ => none)
    path finished
  return ⟨finished, (.written, []), .element path key⟩

def step (builder : Builder) : Statement → Option Builder
  | .assign path key value => do
    let opened ← assign path key value builder.opened
    return { builder with opened }
  | .table path key => do
    let finished ← builder.close
    openTable path key finished
  | .element path key => do
    let finished ← builder.close
    openElement path key finished

/-- Carries out lines in order. -/
def run (builder : Builder) : List Statement → Option Builder
  | [] => some builder
  | first :: rest => do
    let builder ← builder.step first
    builder.run rest

end Builder

/-- The text of a document after its byte order mark. -/
def withoutMark : List Char → List Char
  | '\uFEFF' :: rest => rest
  | chars => chars

/-- The entries of the document that a text stands for, unless it is
malformed. -/
def parse? (text : String) : Option (List (String × Value)) := do
  let chars := withoutMark text.toList
  let lines ← statements (chars.length + 1) chars
  let builder ← Builder.start.run lines
  let (_, entries) ← builder.close
  return entriesToValues entries

end ClusterConsole.Toml
