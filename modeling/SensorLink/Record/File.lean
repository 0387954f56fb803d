import SensorLink.Files.Calls
import SensorLink.Storage.Error

namespace SensorLink

namespace Record

/-- Reads the state at a path; a missing file means that there is none. -/
def readAt (t : FileTree) (p : Path) : Except PersistenceError (Option Bytes) :=
  match t.read p with
  | .error .notFound => .ok none
  | .error e => .error (.io e)
  | .ok record =>
    match decode record with
    | .ok state => .ok (some state)
    | .error fault => .error (.corruptRecord fault)

/-- The neighbour that a new record is written to first. -/
def draftPath (p : Path) : Path := p.withFileName (p.fileName?.getD fileName ++ ".tmp")

/-- One step of replacing a record. -/
inductive Step where
  | create
  | append (bytes : Bytes)
  | sync
  | rename
deriving DecidableEq, Repr

namespace Step

def run (p : Path) (t : FileTree) : Step → Except IoError FileTree
  | .create => t.create (draftPath p)
  | .append bytes => t.append (draftPath p) bytes
  | .sync => .ok t
  | .rename => t.rename (draftPath p) p

/-- Runs steps until one fails, with the tree that they leave. -/
def runAll (p : Path) (t : FileTree) : List Step → Except IoError Unit × FileTree
  | [] => (.ok (), t)
  | step :: rest =>
    match step.run p t with
    | .ok t => runAll p t rest
    | .error e => (.error e, t)

end Step

def replaceSteps (record : Bytes) : List Step := [.create, .append record, .sync, .rename]

/-- Removes a draft that a failed replacement left; a failure here is of no consequence. -/
def discardDraft (t : FileTree) (p : Path) : FileTree :=
  match t.unlink (draftPath p) with
  | .ok t => t
  | .error _ => t

def removeAt (t : FileTree) (p : Path) : Except PersistenceError Unit × FileTree :=
  match t.unlink p with
  | .ok t => (.ok (), t)
  | .error .notFound => (.ok (), t)
  | .error e => (.error (.io e), t)

/-- Replaces the record at a path; an empty state removes it. -/
def writeAt (t : FileTree) (p : Path) (state : Bytes) : Except PersistenceError Unit × FileTree :=
  if state = [] then removeAt t p
  else match encode state with
    | .error fault => (.error (.corruptRecord fault), t)
    | .ok record =>
      match Step.runAll p t (replaceSteps record) with
      | (.ok (), t) => (.ok (), t)
      | (.error e, t) => (.error (.io e), discardDraft t p)

end Record

end SensorLink
