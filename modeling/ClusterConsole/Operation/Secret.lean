import ClusterConsole.Operation.Basic
import ClusterConsole.Secret

/-!
# Writing the secret

The manifest of the secret is made afresh from the environment source.  It is
written to a new file that then takes the place of the old one, so that a
manifest is never there in part; a source that is not found counts as an empty
one.
-/

namespace ClusterConsole

/-- A secret that was written, and whether there was an environment source for
it. -/
structure WrittenSecret where
  path : Path
  hasSource : Bool
deriving DecidableEq, Repr

namespace Path

def directory (path : Path) : Path :=
  match path.parent? with
  | some outer => if outer.text = "" then ⟨"."⟩ else outer
  | none => ⟨"."⟩

end Path

namespace Config

/-- Where the environment source is. -/
def sourcePath (config : Config) : Path :=
  config.resolve config.layout.environmentSource

/-- Where the manifest of the secret is written. -/
def secretPath (config : Config) : Path :=
  config.resolve config.layout.secret

end Config

namespace Operation

/-- The text of an environment source, if it is found. -/
def readSource (source : Path) : Operation (Option String) := do
  match ← request (.file (.readText source)) with
  | .ok text => return some text
  | .error cause =>
    if cause = .notFound then return none else throw (.system cause)

/-- Writes a file as a whole, or leaves what is there. -/
def replaceFile (path : Path) (contents : String) : Operation Unit := do
  ofSystem (← request (.file (.makeDirectories path.directory)))
  let staged ← ofSystem (← request (.file (.stage path.directory contents)))
  match ← request (.file (.promote staged path)) with
  | .ok () => return ()
  | .error cause =>
    request (.file (.discard staged))
    throw (.system cause)

/-- Writes the secret of a namespace, made from an environment source. -/
def writeSecret (source : Path) (namespaceName : String) (output : Path) :
    Operation WrittenSecret := do
  let found ← readSource source
  let material := SecretMaterial.resolve (.parse (found.getD ""))
  replaceFile output (material.render namespaceName)
  return ⟨output, found.isSome⟩

/-- Writes the secret that the configuration describes. -/
def materializeSecret (config : Config) : Operation WrittenSecret := do
  announce (.started .writeSecrets config.secretPath.text)
  let written ← writeSecret config.sourcePath config.namespaceName
    config.secretPath
  unless written.hasSource do
    announce (.notice
      (config.layout.environmentSource.text ++
        " not found, using default values"))
  announce (.finished .writeSecrets config.secretPath.text)
  return written

end Operation

end ClusterConsole
