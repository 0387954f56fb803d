import SensorLink.Files.Path
import SensorLink.IoError
import SensorLink.Record

namespace SensorLink

inductive MountError where
  | notOwner (path : Path)
  | backend (path : Path) (source : IoError)
deriving DecidableEq, Repr

def MountError.message : MountError → String
  | .notOwner path => "mount point " ++ path.inspect ++ " is owned by the application"
  | .backend path source =>
    "mount backend failed for " ++ path.inspect ++ ": " ++ source.message

inductive SetupFault where
  | seedUnknown
  | seedCarriesState
  | seedLacksState
  | pathMissing
deriving DecidableEq, Repr

def SetupFault.message : SetupFault → String
  | .seedUnknown => "initialization state must be known when seeding callback storage"
  | .seedCarriesState => "a not-initialized seed must not carry state bytes"
  | .seedLacksState => "an initialized seed must carry the latest state bytes"
  | .pathMissing => "application-managed storage needs a path"

inductive PersistenceError where
  | invalidConfig (fault : SetupFault)
  | noDirectory (path : Path)
  | corruptRecord (fault : RecordFault)
  | rejected
  | mount (e : MountError)
  | io (e : IoError)
deriving DecidableEq, Repr

def PersistenceError.message : PersistenceError → String
  | .invalidConfig fault => "invalid persistence configuration: " ++ fault.message
  | .noDirectory path => "persistence precondition failed: " ++ path.inspect ++
      " is not a directory of a mounted filesystem"
  | .corruptRecord fault => "corrupt state record: " ++ fault.message
  | .rejected => "state update rejected by callback"
  | .mount e => e.message
  | .io e => "I/O error: " ++ e.message

end SensorLink
