import ClusterConsole.Files.Standard
import ClusterConsole.Text.Raw

/-!
# What processes share

Processes share the file tree and the streams that are open.  A stream has its
place in a file, so that whoever reads or writes next goes on from there; a
channel keeps what is written until it is read, and may have no more than some
room for it.
-/

namespace ClusterConsole.Shell

/-- How a process ends. -/
inductive Ending where
  | exited (code : Nat)
  | killed (signal : Nat)
deriving DecidableEq, Repr

namespace Ending

/-- The status that stands for an ending. -/
def status : Ending → Nat
  | exited code => code
  | killed signal => 128 + signal

end Ending

/-- What an open stream leads to. -/
inductive Opened where
  | device
  | channel (contents : ByteArray) (room? : Option Nat)
  | directory
  | file (location : Location) (position : Nat) (isAppending : Bool)

/-- An open stream. -/
structure Stream where
  opened : Opened
  canRead : Bool
  canWrite : Bool

/-- What processes share. -/
structure System where
  files : FileTree
  streams : Array Stream
  /-- The number of the next process. -/
  nextProcess : Nat
  /-- Signals on their way, each with the process that it is sent to. -/
  signals : List (Nat × Nat)
  /-- How processes have ended that ran beside others. -/
  endings : List (Nat × Ending)

namespace System

/-- The stream that a place among the open ones holds. -/
def stream? (system : System) (index : Nat) : Option Stream :=
  system.streams[index]?

/-- Opens a stream, and tells its place. -/
def openStream (system : System) (stream : Stream) : Nat × System :=
  (system.streams.size, { system with streams := system.streams.push stream })

def lead (system : System) (index : Nat) (opened : Opened) : System :=
  { system with
    streams :=
      system.streams.modify index fun stream => { stream with opened } }

def badStream : SystemError := .number 9

/-- What can be read from a stream, up to so many bytes. -/
def front (system : System) (index count : Nat) :
    Except SystemError (List UInt8) :=
  match system.stream? index with
  | none => .error badStream
  | some stream =>
    if !stream.canRead then .error badStream
    else
      match stream.opened with
      | .device => .ok []
      | .channel contents _ => .ok (contents.extract 0 count).toList
      | .directory => .error .isADirectory
      | .file location position _ =>
        match system.files.node? location with
        | some (.file contents _) =>
          .ok (contents.extract position (position + count)).toList
        | _ => .ok []

def available (system : System) (index : Nat) : Nat :=
  match (system.stream? index).map Stream.opened with
  | some (.channel contents _) => contents.size
  | some (.file location position _) =>
    match system.files.node? location with
    | some (.file contents _) => contents.size - position
    | _ => 0
  | _ => 0

def contents (system : System) (index : Nat) :
    Except SystemError (List UInt8) :=
  system.front index (system.available index)

/-- The system after so many bytes were read from a stream. -/
def advance (system : System) (index count : Nat) : System :=
  match (system.stream? index).map Stream.opened with
  | some (.channel contents room?) =>
    system.lead index (.channel (contents.extract count contents.size) room?)
  | some (.file location position isAppending) =>
    system.lead index (.file location (position + count) isAppending)
  | _ => system

/-- Bytes with others written over them from a place on; what is between them is
filled with zeros. -/
def overwrite (contents : ByteArray) (position : Nat) (bytes : List UInt8) :
    ByteArray :=
  if position = contents.size then bytes.foldl ByteArray.push contents
  else
    let front := contents.toList.take position
    ⟨(front ++ List.replicate (position - front.length) 0 ++ bytes ++
      contents.toList.drop (position + bytes.length)).toArray⟩

/-- The system after bytes were written to a stream. -/
def write (system : System) (index : Nat) (bytes : List UInt8) :
    Except SystemError System :=
  match system.stream? index with
  | none => .error badStream
  | some stream =>
    if !stream.canWrite then .error badStream
    else
      match stream.opened with
      | .device => .ok system
      | .directory => .ok system
      | .channel .. =>
        .ok { system with
          streams := system.streams.modify index fun stream =>
            match stream with
            | ⟨.channel contents room?, canRead, canWrite⟩ =>
              let bytes := match room? with
                | some room => bytes.take room
                | none => bytes
              ⟨.channel (bytes.foldl ByteArray.push contents)
                  (room?.map (· - bytes.length)),
                canRead, canWrite⟩
            | stream => stream }
      | .file location position isAppending =>
        match system.files.node? location with
        | some (.file contents mode) =>
          let position := if isAppending then contents.size else position
          let contents := overwrite contents position bytes
          let files := system.files.put location (.file contents mode)
          let opened := .file location (position + bytes.length) isAppending
          .ok ({ system with files }.lead index opened)
        | _ => .ok system

/-- Whether there is no room left in what a stream leads to. -/
def isFull (system : System) (index : Nat) : Bool :=
  match (system.stream? index).map Stream.opened with
  | some (.channel _ room?) => room? = some 0
  | _ => false

/-- Whether all that is in a channel has been read. -/
def isDrained (system : System) (index : Nat) : Bool :=
  match (system.stream? index).map Stream.opened with
  | some (.channel contents _) => contents.isEmpty
  | _ => false

/-- How a file is opened. -/
inductive Access where
  | read
  | readWrite
  | write
  | append
deriving DecidableEq, Repr

namespace Access

/-- Whether a file is made where none is. -/
def makes : Access → Bool
  | read => false
  | _ => true

def canRead (access : Access) : Bool := access = read || access = readWrite

def canWrite (access : Access) : Bool := access ≠ read

end Access

/-- Opens what a path leads to from a directory, and tells the place of the
stream. -/
def openPath (system : System) (working : Location) (name : String)
    (access : Access) :
    Except SystemError (Nat × System) := do
  let tree : FileTree := { system.files with working }
  let location ← tree.locate ⟨Raw.toText name⟩
  let opened (opened : Opened) (files : FileTree) : Nat × System :=
    { system with files }.openStream ⟨opened, access.canRead, access.canWrite⟩
  match tree.node? location with
  | some .device => return opened .device system.files
  | some .directory =>
    if access.makes then .error .isADirectory
    else return opened .directory system.files
  | some (.file _ mode) =>
    let files :=
      if access = .write then system.files.put location (.file .empty mode)
      else system.files
    return opened (.file location 0 (access = .append)) files
  | none =>
    if access.makes then
      return opened (.file location 0 (access = .append))
        (system.files.put location (.plain .empty))
    else .error .notFound

/-- The signals that are on their way to a process, and the system without
them. -/
def takeSignals (system : System) (process : Nat) : List Nat × System :=
  ((system.signals.filter fun sent => sent.1 = process).map Prod.snd,
    { system with signals :=
      system.signals.filter fun sent => sent.1 ≠ process })

end System

end ClusterConsole.Shell
