import ClusterConsole.Files.Tree

/-!
# Looking for a program

A program that is named by more than one step of a path is where that path
leads.  Any other one is looked for in the directories of a search path, and the
first file there that can be run is the program.
-/

namespace ClusterConsole

namespace FileTree

/-- The directories of a search path.  One without a name is the working
directory. -/
def searchDirectories (search : String) : List Path :=
  (search.toList.splitOn ':').map fun directory => ⟨String.ofList directory⟩

/-- The program with a name, if it is there.  Without a search path only a
program that is named by more than one step can be found. -/
def findProgram? (files : FileTree) (search? : Option String)
    (program : String) :
    Option Path :=
  if 1 < (Path.components ⟨program⟩).length then
    if files.isProgram ⟨program⟩ then some ⟨program⟩ else none
  else
    match search? with
    | none => none
    | some search =>
      ((searchDirectories search).map fun directory =>
        directory.child program).find?
        files.isProgram

end FileTree

end ClusterConsole
