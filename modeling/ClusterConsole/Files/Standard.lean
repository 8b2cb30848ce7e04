import ClusterConsole.Files.Tree

/-!
# The places of a system

Around the working directory there are places that a system has from the start:
its directories, the device that keeps nothing, and a few programs.
-/

namespace ClusterConsole

namespace FileTree

def standardDirectories : List Location :=
  [["bin"], ["boot"], ["dev"], ["etc"], ["home"], ["lib"], ["lib64"], ["media"],
    ["mnt"], ["opt"], ["proc"], ["root"], ["run"], ["sbin"], ["srv"], ["sys"],
    ["tmp"], ["usr"], ["usr", "bin"], ["usr", "lib"], ["usr", "local"],
    ["usr", "local", "bin"], ["usr", "local", "sbin"], ["usr", "sbin"],
    ["usr", "share"], ["var"], ["var", "lib"], ["var", "log"], ["var", "tmp"]]

def standardPrograms : List String :=
  ["[", "cat", "dash", "echo", "env", "false", "printf", "pwd", "sh", "sleep",
    "test", "true"]

/-- The directories that hold the programs of a system. -/
def programDirectories : List Location := [["usr", "bin"], ["bin"]]

/-- What a program of the system holds: code for a machine, which is no text. -/
def machineCode :
    ByteArray := ⟨#[0x7F, 0x45, 0x4C, 0x46, 0x02, 0x01, 0x01, 0xFF]⟩

/-- Where the device is that keeps nothing. -/
def nullDevice : Location := ["dev", "null"]

def standardNodes : List (Location × Node) :=
  (standardDirectories.map fun location => (location, .directory)) ++
    (nullDevice, .device) ::
    (programDirectories.flatMap fun directory =>
      standardPrograms.map fun name =>
      (directory ++ [name], .file machineCode 0o755))

/-- A system with a working directory, in which there is nothing. -/
def standard (working : Location) : FileTree :=
  (⟨standardNodes, working⟩ : FileTree).plant working .directory

def standardProgram? (location : Location) : Option String :=
  match location.getLast? with
  | some name =>
    if name ∈ standardPrograms && location.dropLast ∈ programDirectories then
      some name
    else none
  | none => none

end FileTree

end ClusterConsole
