import SensorLink.Bytes
import SensorLink.Files.NameTree

namespace SensorLink

/-- A directory or a regular file. Links and entries of other kinds are left out of the trees: what
is stated over every tree is stated over those of directories and regular files. -/
inductive Entry where
  | dir
  | file (data : Bytes)
deriving DecidableEq, Repr

/-- Names from an entry up to the root. -/
abbrev Location := List String

/-- A finite map from locations to entries. The root is always a directory. -/
structure FileTree where
  names : NameTree Entry := .empty
  /-- Bytes of the longest path that a call takes. -/
  longestPath : Nat := 4095

namespace FileTree

def get? (t : FileTree) (loc : Location) : Option Entry :=
  if loc = [] then some .dir else t.names.get? loc.reverse

def set (t : FileTree) (loc : Location) (e : Option Entry) : FileTree :=
  { t with names := t.names.update (.setValue e) loc.reverse }

def erase (t : FileTree) (loc : Location) : FileTree := t.set loc none

def put (t : FileTree) (loc : Location) (e : Entry) : FileTree := t.set loc (some e)

def prune (t : FileTree) (loc : Location) : FileTree :=
  { t with names := t.names.update (fun _ => .empty) loc.reverse }

@[simp] theorem get?_root (t : FileTree) : t.get? [] = some .dir := rfl

theorem get?_set_self (t : FileTree) {loc : Location} (e : Option Entry) (h : loc ≠ []) :
    (t.set loc e).get? loc = e := by
  simp [get?, set, h, NameTree.get?_setValue_self]

theorem get?_set_ne (t : FileTree) {loc other : Location} (e : Option Entry) (h : other ≠ loc) :
    (t.set loc e).get? other = t.get? other := by
  have hr : other.reverse ≠ loc.reverse := fun e => h (List.reverse_inj.1 e)
  simp [get?, set, NameTree.get?_setValue_ne _ _ hr]

theorem get?_put_self (t : FileTree) {loc : Location} (e : Entry) (h : loc ≠ []) :
    (t.put loc e).get? loc = some e := t.get?_set_self _ h

theorem get?_put_ne (t : FileTree) {loc other : Location} (e : Entry) (h : other ≠ loc) :
    (t.put loc e).get? other = t.get? other := t.get?_set_ne _ h

theorem get?_erase_self (t : FileTree) {loc : Location} (h : loc ≠ []) :
    (t.erase loc).get? loc = none := t.get?_set_self _ h

end FileTree

end SensorLink
