import SensorLink.Files.Path
import SensorLink.Files.Tree
import SensorLink.IoError

namespace SensorLink

inductive Target where
  | name (name : String) (slash : Bool)
  | here
  | above
  | root
deriving DecidableEq, Repr

structure Spot where
  dir : Location
  target : Target
deriving DecidableEq, Repr

namespace FileTree

def maxName : Nat := 255

def child? (t : FileTree) (dir : Location) (name : String) : Except IoError (Option Entry) :=
  if maxName < name.utf8ByteSize then .error .nameTooLong else .ok (t.get? (name :: dir))

/-- Walks from the directory `dir`, below which `here` stands, through directories. -/
def enterFrom (t : FileTree) (dir : Location) (here : NameTree Entry) :
    List String → Except IoError Location
  | [] => .ok dir
  | segment :: rest =>
    if Path.stays segment then t.enterFrom dir here rest
    else if segment = ".." then t.enterFrom dir.tail (t.names.descend dir.tail.reverse) rest
    else if maxName < segment.utf8ByteSize then .error .nameTooLong
    else match (here.child segment).value with
      | none => .error .notFound
      | some (.file _) => .error .notADirectory
      | some .dir => t.enterFrom (segment :: dir) (here.child segment) rest

def enter (t : FileTree) (dir : Location) (segments : List String) : Except IoError Location :=
  t.enterFrom dir (t.names.descend dir.reverse) segments

@[simp] theorem enter_nil (t : FileTree) (dir : Location) : t.enter dir [] = .ok dir := rfl

theorem enter_cons (t : FileTree) (dir : Location) (segment : String) (rest : List String) :
    t.enter dir (segment :: rest) =
      if Path.stays segment then t.enter dir rest
      else if segment = ".." then t.enter dir.tail rest
      else match t.child? dir segment with
        | .error e => .error e
        | .ok none => .error .notFound
        | .ok (some (.file _)) => .error .notADirectory
        | .ok (some .dir) => t.enter (segment :: dir) rest := by
  have hd : (t.names.descend dir.reverse).child segment =
      t.names.descend (segment :: dir).reverse := by
    rw [List.reverse_cons, NameTree.descend_append]
    rfl
  have hg : t.get? (segment :: dir) = (t.names.descend (segment :: dir).reverse).value := by
    simp [get?, NameTree.get?]
  simp only [enter, enterFrom, child?, hd, hg]
  split
  · rfl
  · split
    · rfl
    · split
      · rfl
      · cases (t.names.descend (segment :: dir).reverse).value with
        | none => rfl
        | some e => cases e <;> rfl

def target (last : String) (slash : Bool) : Target :=
  if last = "." then .here else if last = ".." then .above else .name last slash

def locate (t : FileTree) (p : Path) : Except IoError Spot :=
  if p.hasZero then .error .zeroInName
  else if p.isEmpty then .error .notFound
  else if t.longestPath < p.byteCount then .error .nameTooLong
  else match p.segments.reverse.dropWhile (· = "") with
    | [] => .ok ⟨[], .root⟩
    | last :: before =>
      (t.enter [] before.reverse).map fun dir =>
        ⟨dir, target last (p.segments.getLast? = some "")⟩

end FileTree

end SensorLink
