import SensorLink.CommandLoop
import SensorLink.Settings.Document
import SensorLink.Toml

namespace SensorLink

structure StorageSettings where
  kind : StorageKind := .file
  ownership : Ownership := .library
  path : Option Path := none
  libraryBase : Path := Partition.defaultBase
deriving DecidableEq, Repr

structure SensorSettings where
  devEui : Option DevEui := none
  bridgeUrl : Option String := none
  pollSeconds : Nat := 5
  storage : StorageSettings := {}
deriving DecidableEq, Repr

inductive SettingsFault where
  | devEuiMissing
  | urlScheme (url : String)
  | callbackKind
  | pathMissing
  | pathNotTaken
  | storage (e : PersistenceError)
deriving DecidableEq, Repr

def SettingsFault.message : SettingsFault → String
  | .devEuiMissing => "dev_eui is required"
  | .urlScheme url => "bridge_url must be an http(s) URL, got " ++ Text.quoted url
  | .callbackKind => "callback storage can only be configured programmatically"
  | .pathMissing => "application-managed storage needs a path"
  | .pathNotTaken =>
    "library-managed storage does not take a path; set library_base_path instead"
  | .storage e => e.message

inductive SettingsError where
  | notReadable (path : Path) (e : IoError)
  /-- Not a document of the format, or not one of a sensor; the latter has a cause. -/
  | notParsed (cause : Option Settings.Mismatch)
  | invalid (fault : SettingsFault)
deriving DecidableEq, Repr

def SettingsError.message : SettingsError → String
  | .notReadable path e => "config file not found: " ++ path.toString ++ ": " ++ e.message
  | .notParsed (some (.devEui e)) => "config parse error: " ++ e.message
  | .notParsed _ => "config parse error"
  | .invalid fault => "config validation error: " ++ fault.message

namespace StorageSettings

def kindChoices : List (String × StorageKind) :=
  [("vfs_file", .file), ("vfs", .file), ("callback", .callback)]

def ownershipChoices : List (String × Ownership) :=
  [("library_managed", .library), ("library", .library),
    ("application_managed", .application), ("application", .application)]

def readPath : Settings.Read Path := fun v => Path.ofString <$> Settings.readText v

def fields (f : Settings.Format) : List (Settings.Field StorageSettings) :=
  [Settings.field "kind" (Settings.readChoice f kindChoices) fun s kind => { s with kind },
    Settings.field "ownership" (Settings.readChoice f ownershipChoices) fun s ownership =>
      { s with ownership },
    Settings.field "path" (Settings.readOptional readPath) fun s path => { s with path },
    Settings.field "library_base_path" readPath fun s libraryBase => { s with libraryBase }]

def read (f : Settings.Format) : Settings.Read StorageSettings :=
  Settings.readRecord f (fields f) {}

def kindName : StorageKind → String
  | .file => "vfs_file"
  | .callback => "callback"

def ownershipName : Ownership → String
  | .library => "library_managed"
  | .application => "application_managed"

end StorageSettings

namespace SensorSettings

def fields (f : Settings.Format) : List (Settings.Field SensorSettings) :=
  [Settings.field "dev_eui" (Settings.readOptional Settings.readDevEui) fun s devEui =>
      { s with devEui },
    Settings.field "bridge_url" (Settings.readOptional Settings.readText) fun s bridgeUrl =>
      { s with bridgeUrl },
    Settings.field "poll_interval_secs" Settings.readCount fun s pollSeconds =>
      { s with pollSeconds },
    Settings.field "storage" (StorageSettings.read f) fun s storage => { s with storage }]

def read (f : Settings.Format) : Settings.Read SensorSettings :=
  Settings.readRecord f (fields f) {}

/-- Overrides from the environment; a value that cannot be read is passed over. -/
def ofEnvironment (env : String → Option String) : SensorSettings :=
  let s : SensorSettings := {}
  let s := match (env "SENSOR_DEV_EUI").map DevEui.parse with
    | some (.ok devEui) => { s with devEui := some devEui }
    | _ => s
  let s := match env "SENSOR_BRIDGE_URL" with
    | some url => { s with bridgeUrl := some url }
    | none => s
  let s := match env "SENSOR_STORAGE_PATH" with
    | some path => { s with storage := { s.storage with
        ownership := .application, path := some (Path.ofString path) } }
    | none => s
  match (env "SENSOR_POLL_INTERVAL_SECS").map Text.readUInt64 with
  | some (.ok n) => { s with pollSeconds := n.toNat }
  | _ => s

def validate (s : SensorSettings) : Except SettingsFault Unit := do
  if s.devEui.isNone then throw .devEuiMissing
  if let some url := s.bridgeUrl then
    if !Settings.isHttpUrl url then throw (.urlScheme url)
  if s.storage.kind ≠ .file then throw .callbackKind
  match s.storage.ownership, s.storage.path with
  | .application, none => throw .pathMissing
  | .library, some _ => throw .pathNotTaken
  | _, _ => return ()

def storageConfig {υ : Type} (s : SensorSettings) :
    Except SettingsFault (StorageConfig DirectoryBackend υ) := do
  s.validate
  match s.storage.ownership, s.storage.path with
  | .application, some path => (StorageConfig.inApplicationDirectory path).mapError .storage
  | _, _ => return .fileLibrary (.atPath s.storage.libraryBase {})

def loopOptions (s : SensorSettings) : LoopOptions := { pollInterval := s.pollSeconds * 1000 }

def load (p : Path) (contents : Except IoError Bytes) : Except SettingsError SensorSettings := do
  let document ← (Settings.documentText contents).mapError (.notReadable p)
  match Toml.parse document with
  | none => throw (.notParsed none)
  | some v =>
    let s ← (read .toml v).mapError fun m => .notParsed (some m)
    (s.validate).mapError .invalid
    return s

end SensorSettings

end SensorLink
