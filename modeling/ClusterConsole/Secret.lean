import ClusterConsole.Overrides

/-!
# The shared secret

The services share seven credentials.  Each one comes from the environment
source or else has a fixed fallback, and all of them are written into one
manifest.
-/

namespace ClusterConsole

/-- A text in which each occurrence of a character is replaced. -/
def Text.substitute (old : Char) (new : List Char) (text : List Char) :
    List Char :=
  text.flatMap fun char => if char = old then new else [char]

/-- The credentials that the services expect. -/
inductive Credential where
  | databaseUser
  | databasePassword
  | cachePassword
  | tokenSecret
  | tokenExpiry
  | adminEmail
  | adminPassword
deriving DecidableEq, Repr

namespace Credential

/-- The credentials in the order of the manifest. -/
def all : List Credential :=
  [.databaseUser, .databasePassword, .cachePassword, .tokenSecret, .tokenExpiry,
    .adminEmail, .adminPassword]

/-- The key of a credential, in the environment source and in the manifest. -/
def key : Credential → String
  | .databaseUser => "POSTGRES_USER"
  | .databasePassword => "POSTGRES_PASSWORD"
  | .cachePassword => "REDIS_PASSWORD"
  | .tokenSecret => "JWT_SECRET"
  | .tokenExpiry => "JWT_EXPIRATION"
  | .adminEmail => "ADMIN_BOOTSTRAP_EMAIL"
  | .adminPassword => "ADMIN_BOOTSTRAP_PASSWORD"

/-- The value of a credential that the environment source does not give. -/
def fallback : Credential → String
  | .databaseUser => "postgres"
  | .databasePassword => "postgres"
  | .cachePassword => ""
  | .tokenSecret => "default-secret-key-must-be-changed"
  | .tokenExpiry => "86400000"
  | .adminEmail => "admin@limitedcart.com"
  | .adminPassword => "admin"

theorem mem_all (credential : Credential) : credential ∈ all := by
  cases credential <;> decide

end Credential

/-- A value for every credential. -/
structure SecretMaterial where
  value : Credential → String

namespace SecretMaterial

/-- The values given, and the fallbacks for the others. -/
def resolve (overrides : Overrides) : SecretMaterial where
  value credential := (overrides.get? credential.key).getD credential.fallback

/-- Each credential with its value, in the order of the manifest. -/
def entries (material : SecretMaterial) : List (Credential × String) :=
  Credential.all.map fun credential => (credential, material.value credential)

/-- A value as it stands between double quotes.  The backslashes come first: the
other way round, those of the quotes would be escaped again. -/
def escape (value : List Char) : List Char :=
  Text.substitute '"' ['\\', '"'] (Text.substitute '\\' ['\\', '\\'] value)

/-- The manifest up to its first credential. -/
def header (namespaceName : String) : List Char :=
  "apiVersion: v1\nkind: Secret\nmetadata:\n".toList ++
    "  name: common-secrets\n  namespace: ".toList ++
    namespaceName.toList ++ "\ntype: Opaque\nstringData:\n".toList

def entryLine (credential : Credential) (value : String) : List Char :=
  ' ' :: ' ' :: credential.key.toList ++ ':' :: ' ' :: '"' ::
    escape value.toList ++ ['"', '\n']

def document (material : SecretMaterial) (namespaceName : String) : List Char :=
  header namespaceName ++
    material.entries.flatMap fun entry => entryLine entry.1 entry.2

/-- The manifest as a text. -/
def render (material : SecretMaterial) (namespaceName : String) : String :=
  String.ofList (material.document namespaceName)

end SecretMaterial

end ClusterConsole
