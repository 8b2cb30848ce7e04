import Mathlib.Data.List.Basic
import ClusterConsole.Secret

/-!
# Reading the manifest of the secret

The manifest loses nothing: a reader that knows the namespace gets every value
back, so two manifests are the same only if all values are.  What makes this
work is that no value can end its own quotation, however many quotes and
backslashes it has.
-/

namespace ClusterConsole

namespace SecretMaterial

/-! ## Escaping -/

/-- What a single character is written as. -/
def escapeOne (char : Char) : List Char :=
  if char = '\\' then
    ['\\', '\\']
  else if char = '"' then ['\\', '"'] else [char]

/-- Both replacements can be made in one pass, as the second one leaves alone
what the first one put there. -/
theorem escape_eq_flatMap (value : List Char) :
    escape value = value.flatMap escapeOne := by
  rw [escape, Text.substitute, Text.substitute, List.flatMap_assoc]
  congr 1
  funext char
  by_cases isBackslash : char = '\\'
  · subst isBackslash
    rfl
  · simp [escapeOne, isBackslash]

theorem escape_cons (char : Char) (rest : List Char) :
    escape (char :: rest) = escapeOne char ++ escape rest := by
  rw [escape_eq_flatMap, escape_eq_flatMap, List.flatMap_cons]

theorem escape_backslash (rest : List Char) :
    escape ('\\' :: rest) = '\\' :: '\\' :: escape rest :=
  escape_cons '\\' rest

theorem escape_quote (rest : List Char) :
    escape ('"' :: rest) = '\\' :: '"' :: escape rest :=
  escape_cons '"' rest

theorem escape_plain {char : Char} (noBackslash : char ≠ '\\')
    (noQuote : char ≠ '"') (rest : List Char) :
    escape (char :: rest) = char :: escape rest := by
  simp [escape_cons, escapeOne, noBackslash, noQuote]

example :
    Text.substitute '\\' ['\\', '\\'] (Text.substitute '"' ['\\', '"'] ['"']) ≠
      escape ['"'] := by
  decide

/-! ## Reading -/

/-- The value that stands before the first quote that is not escaped, and what
comes after that quote.  Only a backslash and a quote can be escaped. -/
def readQuoted? : List Char → Option (List Char × List Char)
  | [] => none
  | '"' :: rest => some ([], rest)
  | '\\' :: '\\' :: rest =>
    (readQuoted? rest).map fun (value, after) => ('\\' :: value, after)
  | '\\' :: '"' :: rest =>
    (readQuoted? rest).map fun (value, after) => ('"' :: value, after)
  | '\\' :: _ => none
  | char :: rest =>
    (readQuoted? rest).map fun (value, after) => (char :: value, after)

/-- A key with the value on its line, and what comes after that line. -/
def readLine? (key : String) (text : List Char) :
    Option ((String × String) × List Char) := do
  let opened ← ("  " ++ key ++ ": \"").toList.isPrefixOf? text
  let (value, closed) ← readQuoted? opened
  let after ← ['\n'].isPrefixOf? closed
  return ((key, String.ofList value), after)

/-- Some keys with the values on their lines, and what comes after them. -/
def readLines? :
    List String → List Char → Option (List (String × String) × List Char)
  | [], text => some ([], text)
  | key :: keys, text => do
    let (entry, text) ← readLine? key text
    let (entries, after) ← readLines? keys text
    return (entry :: entries, after)

-- The reader spells out what it expects, so that it knows nothing of the
-- writer.

def opening (namespaceName : String) : String :=
  "apiVersion: v1\n" ++
  "kind: Secret\n" ++
  "metadata:\n" ++
  "  name: common-secrets\n" ++
  "  namespace: " ++ namespaceName ++ "\n" ++
  "type: Opaque\n" ++
  "stringData:\n"

/-- The keys of a manifest, in their order. -/
def keys : List String :=
  ["POSTGRES_USER", "POSTGRES_PASSWORD", "REDIS_PASSWORD", "JWT_SECRET",
    "JWT_EXPIRATION", "ADMIN_BOOTSTRAP_EMAIL", "ADMIN_BOOTSTRAP_PASSWORD"]

/-- The keys and values of a manifest for a namespace, if it is one and nothing
more. -/
def read? (namespaceName : String) (document : String) :
    Option (List (String × String)) := do
  let text ← (opening namespaceName).toList.isPrefixOf? document.toList
  match ← readLines? keys text with
  | (entries, []) => some entries
  | _ => none

theorem toList_opening (namespaceName : String) :
    (opening namespaceName).toList = header namespaceName := by
  unfold opening header
  simp

theorem map_key_all : Credential.all.map Credential.key = keys := rfl

/-- An escaped value ends at the quote that was put after it, and nowhere
before. -/
theorem readQuoted?_escape (value rest : List Char) :
    readQuoted? (escape value ++ '"' :: rest) = some (value, rest) := by
  induction value with
  | nil => rfl
  | cons char value ih =>
      by_cases isBackslash : char = '\\'
      · subst isBackslash
        simp [escape_backslash, readQuoted?, ih]
      by_cases isQuote : char = '"'
      · subst isQuote
        simp [escape_quote, readQuoted?, ih]
      simp [escape_plain isBackslash isQuote, readQuoted?, ih, isBackslash]

theorem readLine?_entryLine (credential : Credential) (value : String)
    (rest : List Char) :
    readLine? credential.key (entryLine credential value ++ rest) =
      some ((credential.key, value), rest) := by
  have opens : ("  " ++ credential.key ++ ": \"").toList.isPrefixOf?
      (entryLine credential value ++ rest) =
        some (escape value.toList ++ '"' :: '\n' :: rest) := by
    rw [List.isPrefixOf?_eq_some_iff_append_eq]
    simp [entryLine]
  have ends : ['\n'].isPrefixOf? ('\n' :: rest) = some rest :=
    List.isPrefixOf?_eq_some_iff_append_eq.mpr rfl
  rw [readLine?, opens]
  simp [readQuoted?_escape, ends]

theorem readLines?_entryLines (material : SecretMaterial)
    (credentials : List Credential) (rest : List Char) :
    readLines? (credentials.map Credential.key)
        ((credentials.flatMap fun credential =>
          entryLine credential (material.value credential)) ++ rest) =
      some (credentials.map fun credential =>
        (credential.key, material.value credential),
        rest) := by
  induction credentials with
  | nil => rfl
  | cons credential credentials ih =>
      simp [readLines?, List.append_assoc, readLine?_entryLine, ih]

/-- A manifest is read back as the values that it was made from. -/
theorem read?_render (material : SecretMaterial) (namespaceName : String) :
    read? namespaceName (material.render namespaceName) =
      some (Credential.all.map fun credential =>
        (credential.key, material.value credential)) := by
  have lines := readLines?_entryLines material Credential.all []
  rw [List.append_nil, map_key_all] at lines
  have opens : (opening namespaceName).toList.isPrefixOf?
      (material.document namespaceName) =
      some (Credential.all.flatMap fun credential =>
        entryLine credential (material.value credential)) := by
    rw [toList_opening, List.isPrefixOf?_eq_some_iff_append_eq]
    simp [document, SecretMaterial.entries, List.flatMap_map]
  simp [read?, render, opens, lines]

theorem render_inj {namespaceName : String} {first second : SecretMaterial} :
    first.render namespaceName = second.render namespaceName ↔
      ∀ credential, first.value credential = second.value credential := by
  constructor
  · intro same
    have read := read?_render first namespaceName
    rw [same, read?_render, Option.some.injEq, List.map_inj_left] at read
    intro credential
    exact (Prod.ext_iff.mp (read credential credential.mem_all)).2.symm
  · intro same
    have values : first.value = second.value := funext same
    simp [render, document, entries, values]

/-- Two manifests for one namespace have the same bytes exactly when all seven
credentials have the same values, and a manifest is read back as its keys and
values, with nothing left. -/
theorem render_faithful (namespaceName : String) (first second : Overrides) :
    (((resolve first).render namespaceName).toByteArray =
        ((resolve second).render namespaceName).toByteArray ↔
      ∀ credential : Credential,
        (first.get? credential.key).getD credential.fallback =
          (second.get? credential.key).getD credential.fallback) ∧
    read? namespaceName ((resolve first).render namespaceName) =
      some
        [("POSTGRES_USER", (first.get? "POSTGRES_USER").getD "postgres"),
          ("POSTGRES_PASSWORD",
            (first.get? "POSTGRES_PASSWORD").getD "postgres"),
          ("REDIS_PASSWORD", (first.get? "REDIS_PASSWORD").getD ""),
          ("JWT_SECRET",
            (first.get? "JWT_SECRET").getD
              "default-secret-key-must-be-changed"),
          ("JWT_EXPIRATION", (first.get? "JWT_EXPIRATION").getD "86400000"),
          ("ADMIN_BOOTSTRAP_EMAIL",
            (first.get? "ADMIN_BOOTSTRAP_EMAIL").getD "admin@limitedcart.com"),
          ("ADMIN_BOOTSTRAP_PASSWORD",
            (first.get? "ADMIN_BOOTSTRAP_PASSWORD").getD "admin")] := by
  refine ⟨?_, read?_render (resolve first) namespaceName⟩
  rw [String.toByteArray_inj, render_inj]
  rfl

end SecretMaterial

end ClusterConsole
