import SensorLink.Files.Walk

namespace SensorLink

namespace FileTree

def isDir (t : FileTree) (p : Path) : Bool :=
  match t.locate p with
  | .error _ => false
  | .ok ⟨dir, .name name _⟩ =>
    match t.child? dir name with
    | .ok (some .dir) => true
    | _ => false
  | .ok _ => true

def read (t : FileTree) (p : Path) : Except IoError Bytes := do
  match ← t.locate p with
  | ⟨dir, .name name slash⟩ =>
    match ← t.child? dir name with
    | none => throw .notFound
    | some .dir => throw .isADirectory
    | some (.file data) => if slash then throw .notADirectory else return data
  | _ => throw .isADirectory

def create (t : FileTree) (p : Path) : Except IoError FileTree := do
  match ← t.locate p with
  | ⟨dir, .name name false⟩ =>
    match ← t.child? dir name with
    | some .dir => throw .isADirectory
    | _ => return t.put (name :: dir) (.file [])
  | _ => throw .isADirectory

def append (t : FileTree) (p : Path) (bytes : Bytes) : Except IoError FileTree := do
  match ← t.locate p with
  | ⟨dir, .name name _⟩ =>
    match ← t.child? dir name with
    | none => throw .notFound
    | some .dir => throw .isADirectory
    | some (.file data) => return t.put (name :: dir) (.file (data ++ bytes))
  | _ => throw .isADirectory

def unlink (t : FileTree) (p : Path) : Except IoError FileTree := do
  match ← t.locate p with
  | ⟨dir, .name name slash⟩ =>
    match ← t.child? dir name with
    | none => throw .notFound
    | some .dir => throw .isADirectory
    | some (.file _) => if slash then throw .notADirectory else return t.erase (name :: dir)
  | _ => throw .isADirectory

/-- Moves a regular file; a file at the new path is replaced. -/
def rename (t : FileTree) (source dest : Path) : Except IoError FileTree := do
  match ← t.locate source, ← t.locate dest with
  | ⟨dir, .name name _⟩, ⟨dir', .name name' slash⟩ =>
    match ← t.child? dir name with
    | none => throw .notFound
    | some .dir => throw .isADirectory
    | some (.file data) =>
      let old ← t.child? dir' name'
      if slash then throw .notADirectory
      else if old = some .dir then throw .isADirectory
      else return (t.erase (name :: dir)).put (name' :: dir') (.file data)
  | _, _ => throw .busy

def mkdir (t : FileTree) (p : Path) : Except IoError FileTree := do
  match ← t.locate p with
  | ⟨dir, .name name _⟩ =>
    match ← t.child? dir name with
    | none => return t.put (name :: dir) .dir
    | some _ => throw .alreadyExists
  | _ => throw .alreadyExists

/-- Makes a directory with the directories above it, at most `depth` of them. A failure keeps what
was made on the way. -/
def mkdirsUpTo : Nat → FileTree → Path → Except IoError Unit × FileTree
  | 0, t, _ => (.error .notFound, t)
  | depth + 1, t, p =>
    if p.isEmpty then (.ok (), t)
    else match t.mkdir p, p.parent? with
      | .ok t, _ => (.ok (), t)
      | .error .notFound, some above =>
        match mkdirsUpTo depth t above with
        | (.error e, t) => (.error e, t)
        | (.ok (), t) =>
          match t.mkdir p with
          | .ok t => (.ok (), t)
          | .error e => (if t.isDir p then .ok () else .error e, t)
      | .error e, _ => (if t.isDir p then .ok () else .error e, t)

def mkdirs (t : FileTree) (p : Path) : Except IoError Unit × FileTree :=
  mkdirsUpTo (p.segments.length + 1) t p

/-- Gives a file new contents; a call that fails does nothing. -/
def writeAll (t : FileTree) (p : Path) (data : Bytes) : FileTree :=
  match t.create p >>= fun t => t.append p data with
  | .ok t => t
  | .error _ => t

def removeAll (t : FileTree) (p : Path) : FileTree :=
  match t.locate p with
  | .ok ⟨dir, .name name _⟩ => t.prune (name :: dir)
  | _ => t

/-- Entries below a directory as relative paths, in the order of the bytes of those paths. -/
def below (t : FileTree) (dir : Location) : List (String × Entry) :=
  let inside := NameTree.childrenToList [] (t.names.descend dir.reverse).children
  let named := inside.map fun e => ("/".intercalate e.1, e.2)
  named.mergeSort fun a b => !decide (b.1 < a.1)

end FileTree

end SensorLink
