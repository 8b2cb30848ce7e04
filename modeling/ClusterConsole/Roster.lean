import ClusterConsole.Service
import ClusterConsole.Text.Blank

/-!
# The roster

The roster is the ordered list of services.  Names and aliases identify services
without doubt: a roster can only be made of services of which no name is blank
or repeated and no alias is blank, repeated, or a name.
-/

namespace ClusterConsole

namespace Roster

/-- Why a list of services is no roster. -/
inductive Fault where
  | blankName
  | repeatedName (name : String)
  | blankAlias
  | aliasIsName (otherName : String)
  | repeatedAlias (otherName : String)
deriving DecidableEq, Repr

def Fault.reason : Fault → String
  | .blankName => "service name must not be empty"
  | .repeatedName name => "duplicate service name '" ++ name ++ "'"
  | .blankAlias => "alias must not be empty"
  | .aliasIsName otherName =>
    "alias '" ++ otherName ++ "' collides with a service name"
  | .repeatedAlias otherName =>
    "alias '" ++ otherName ++ "' is used more than once"

/-- The fault of the first name that is blank or among the `earlier` ones. -/
def nameFault? (earlier : List String) : List String → Option Fault
  | [] => none
  | name :: rest =>
    if Text.isAllBlank name then some .blankName
    else if name ∈ earlier then some (.repeatedName name)
    else nameFault? (name :: earlier) rest

/-- The fault of the first alias that is blank, one of the `names`, or among the
`earlier` ones. -/
def aliasFault? (names earlier : List String) : List String → Option Fault
  | [] => none
  | otherName :: rest =>
    if Text.isAllBlank otherName then some .blankAlias
    else if otherName ∈ names then some (.aliasIsName otherName)
    else if otherName ∈ earlier then some (.repeatedAlias otherName)
    else aliasFault? names (otherName :: earlier) rest

def namesOf (services : List Service) : List String :=
  services.map Service.name

def aliasesOf (services : List Service) : List String :=
  services.filterMap Service.alias?

/-- The first fault of a list of services; all names come before the aliases. -/
def fault? (services : List Service) : Option Fault :=
  nameFault? [] (namesOf services) <|>
    aliasFault? (namesOf services) [] (aliasesOf services)

end Roster

/-- An ordered list of services without fault. -/
structure Roster where
  services : List Service
  faultless : Roster.fault? services = none
deriving DecidableEq

namespace Roster

/-- The roster of a list of services, unless there is a fault in it. -/
def ofServices (services : List Service) : Except Fault Roster :=
  match found : fault? services with
  | none => .ok ⟨services, found⟩
  | some fault => .error fault

def get? (roster : Roster) (name : String) : Option Service :=
  roster.services.find? fun service => service.name = name

def getByAlias? (roster : Roster) (otherName : String) : Option Service :=
  roster.services.find? fun service => service.alias? = some otherName

/-- The service that has the name or else the alias, blanks around it aside. -/
def resolve? (roster : Roster) (query : String) : Option Service :=
  roster.get? (Text.trim query) <|> roster.getByAlias? (Text.trim query)

/-- Each alias with the name that it stands for. -/
def aliases (roster : Roster) : List (String × String) :=
  roster.services.filterMap fun service =>
    service.alias?.map fun otherName => (otherName, service.name)

/-- All names, then all aliases. -/
def choices (roster : Roster) : List String :=
  roster.services.map Service.name ++ roster.aliases.map Prod.fst

/-- The services deployed when a configuration lists none. -/
def standardServices : List Service :=
  [ (Service.named "auth-service").withAlias "as",
    (Service.named "product-service").withAlias "ps",
    (Service.named "inventory-service").withAlias "is",
    (Service.named "order-service").withAlias "os",
    (Service.named "payment-service").withAlias "pays",
    (Service.named "notification-service").withAlias "ns",
    (Service.named "temporal-worker").withAlias "tw",
    ⟨"frontend", some "f", some ⟨"./frontend-web"⟩, some "Dockerfile",
      some BuildArguments.empty⟩ ]

/-- The roster deployed when a configuration lists none. -/
def standard : Roster :=
  ⟨standardServices, by decide +kernel⟩

/-- No services at all. -/
def empty : Roster :=
  ⟨[], rfl⟩

instance : Inhabited Roster := ⟨empty⟩

end Roster

end ClusterConsole
