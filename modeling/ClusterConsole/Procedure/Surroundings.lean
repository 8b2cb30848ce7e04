import ClusterConsole.Procedure.Basic

/-!
# Surroundings

Surroundings are put together from parts: a file tree that replies to file
requests, and the flags by which an interrupt ends a display loop.  Any other
surroundings can be given these two parts, whatever they reply to the remaining
requests.
-/

namespace ClusterConsole

namespace FileTree

def reply : (request : FileRequest) → FileTree → request.Reply × FileTree
  | .readText path, tree => (tree.readText path, tree)
  | .isFile path, tree => (tree.isFile path, tree)
  | .makeDirectories path, tree => tree.makeDirectories path
  | .stage directory contents, tree =>
    match tree.stage directory contents with
    | .ok (staged, tree) => (.ok staged, tree)
    | .error cause => (.error cause, tree)
  | .promote staged target, tree =>
    match tree.promote staged target with
    | .ok tree => (.ok (), tree)
    | .error cause => (.error cause, tree)
  | .discard staged, tree => ((), tree.erase staged)

end FileTree

/-- What decides the meaning of an interrupt. -/
structure Interruption where
  /-- A display loop is running. -/
  looping : Bool
  /-- The loop was interrupted. -/
  stopped : Bool
deriving DecidableEq, Repr, Inhabited

namespace Interruption

/-- No display loop is running. -/
def idle : Interruption := ⟨false, false⟩

def interrupt (flags : Interruption) : Interruption :=
  { flags with stopped := flags.stopped || flags.looping }

def reply :
    (request : DisplayRequest) → Interruption → request.Reply × Interruption
  | .begin, _ => ((), ⟨true, false⟩)
  | .isStopped, flags => (flags.stopped, flags)
  | .pause _, flags => ((), flags)
  | .finish, _ => ((), idle)

end Interruption

namespace Surroundings

/-- Surroundings whose files are those of a file tree. -/
def withFiles (others : Surroundings σ) : Surroundings (FileTree × σ) where
  reply
    | .file request, (tree, state) =>
      let (reply, tree) := tree.reply request
      (reply, tree, state)
    | request, (tree, state) =>
      let (reply, state) := others.reply request state
      (reply, tree, state)

/-- Surroundings in which an interrupt arrives during each request for which
`arrives` says so, told by the state before and after it. -/
def withInterrupts (arrives : Request → σ → σ → Bool)
    (others : Surroundings σ) :
    Surroundings (Interruption × σ) where
  reply
    | .display request, (flags, state) =>
      let (reply, flags) := flags.reply request
      let (_, after) := others.reply (.display request) state
      (reply, if arrives (.display request) state after then
        flags.interrupt else flags, after)
    | request, (flags, state) =>
      let (reply, after) := others.reply request state
      (reply, if arrives request state after then
        flags.interrupt else flags, after)

end Surroundings

end ClusterConsole
