import SensorLink.Proofs.Files.Sibling

namespace SensorLink

namespace FileTree

/-- Where a path leads, if that is a name in a directory. -/
def place? (t : FileTree) (p : Path) : Option Location :=
  match t.locate p with
  | .ok ⟨dir, .name name _⟩ => some (name :: dir)
  | _ => none

variable {t t' : FileTree} {p : Path}

theorem place?_of_locate {dir : Location} {name : String} {slash : Bool}
    (h : t.locate p = .ok ⟨dir, .name name slash⟩) : t.place? p = some (name :: dir) := by
  simp only [place?, h]

/-- Where a file comes to stand that is moved to a path. -/
def landing (t : FileTree) (p : Path) : Except IoError Location := do
  match ← t.locate p with
  | ⟨dir, .name name slash⟩ =>
    let old ← t.child? dir name
    if slash then throw .notADirectory
    else if old = some .dir then throw .isADirectory
    else return name :: dir
  | _ => throw .busy

theorem landing_ok {loc : Location} (h : t.landing p = .ok loc) :
    ∃ dir f, t.locate p = .ok ⟨dir, .name f false⟩ ∧ t.child? dir f = .ok (t.get? (f :: dir)) ∧
      t.get? (f :: dir) ≠ some .dir ∧ loc = f :: dir := by
  cases hl : t.locate p with
  | error e => simp [landing, hl, bind, Except.bind] at h
  | ok spot =>
    obtain ⟨dir, target⟩ := spot
    cases target with
    | name f slash =>
      cases hc : t.child? dir f with
      | error e => simp [landing, hl, hc, bind, Except.bind] at h
      | ok old =>
        have hget := child?_eq_ok hc
        simp only [landing, hl, hc, bind, Except.bind] at h
        split at h
        · cases h
        · rename_i hslash
          split at h
          · cases h
          · rename_i hdir
            cases h
            exact ⟨dir, f, by rw [Bool.eq_false_iff.2 hslash], by rw [hget, hc], hget ▸ hdir, rfl⟩
    | here => simp [landing, hl, bind, Except.bind] at h
    | above => simp [landing, hl, bind, Except.bind] at h
    | root => simp [landing, hl, bind, Except.bind] at h

/-- The file that a path leads to: its place and its bytes. -/
def fileAt (t : FileTree) (p : Path) : Except IoError (Location × Bytes) := do
  match ← t.locate p with
  | ⟨dir, .name name slash⟩ =>
    match ← t.child? dir name with
    | none => throw .notFound
    | some .dir => throw .isADirectory
    | some (.file data) => if slash then throw .notADirectory else return (name :: dir, data)
  | _ => throw .isADirectory

theorem read_eq (t : FileTree) (p : Path) : t.read p = (t.fileAt p).map Prod.snd := by
  simp only [FileTree.read, fileAt, bind, Except.bind]
  cases t.locate p with
  | error e => rfl
  | ok spot =>
    obtain ⟨dir, target⟩ := spot
    cases target with
    | name f slash =>
      simp only
      cases t.child? dir f with
      | error e => rfl
      | ok old => rcases old with _ | _ | data <;> cases slash <;> rfl
    | here | above | root => rfl

theorem unlink_eq (t : FileTree) (p : Path) :
    t.unlink p = (t.fileAt p).map fun found => t.erase found.1 := by
  simp only [unlink, fileAt, bind, Except.bind]
  cases t.locate p with
  | error e => rfl
  | ok spot =>
    obtain ⟨dir, target⟩ := spot
    cases target with
    | name f slash =>
      simp only
      cases t.child? dir f with
      | error e => rfl
      | ok old => rcases old with _ | _ | data <;> cases slash <;> rfl
    | here | above | root => rfl

theorem fileAt_ok {loc : Location} {data : Bytes} (h : t.fileAt p = .ok (loc, data)) :
    ∃ dir f, t.locate p = .ok ⟨dir, .name f false⟩ ∧ ¬ maxName < f.utf8ByteSize ∧
      t.get? (f :: dir) = some (.file data) ∧ loc = f :: dir := by
  cases hl : t.locate p with
  | error e => simp [fileAt, hl, bind, Except.bind] at h
  | ok spot =>
    obtain ⟨dir, target⟩ := spot
    cases target with
    | name f slash =>
      cases hc : t.child? dir f with
      | error e => simp [fileAt, hl, hc, bind, Except.bind] at h
      | ok old =>
        have hfit : ¬ maxName < f.utf8ByteSize := by
          intro hn
          simp [child?, hn] at hc
        have hget := child?_eq_ok hc
        simp only [fileAt, hl, hc, bind, Except.bind] at h
        split at h
        · cases h
        · cases h
        · split at h
          · cases h
          · rename_i hslash
            cases h
            exact ⟨dir, f, by rw [Bool.eq_false_iff.2 hslash], hfit, hget, rfl⟩
    | here | above | root => simp [fileAt, hl, bind, Except.bind] at h

section Beside

variable {places : List Location} (ha : AgreeOff places t t') (hl : t'.locate p = t.locate p)
  (hp : ∀ loc ∈ places, t.place? p ≠ some loc)

include ha hp

theorem AgreeOff.child?_of_locate {dir : Location} {f : String} {slash : Bool}
    (h : t.locate p = .ok ⟨dir, .name f slash⟩) : t'.child? dir f = t.child? dir f :=
  ha.child? fun hm => hp _ hm (place?_of_locate h)

include hl

theorem AgreeOff.fileAt : t'.fileAt p = t.fileAt p := by
  simp only [FileTree.fileAt, hl, bind, Except.bind]
  cases h : t.locate p with
  | error e => rfl
  | ok spot =>
    obtain ⟨dir, target⟩ := spot
    cases target with
    | name f slash => simp only [ha.child?_of_locate hp h]
    | here | above | root => rfl

theorem AgreeOff.read : t'.read p = t.read p := by
  rw [read_eq, read_eq, ha.fileAt hl hp]

theorem AgreeOff.landing : t'.landing p = t.landing p := by
  simp only [FileTree.landing, hl, bind, Except.bind]
  cases h : t.locate p with
  | error e => rfl
  | ok spot =>
    obtain ⟨dir, target⟩ := spot
    cases target with
    | name f slash => simp only [ha.child?_of_locate hp h]
    | here | above | root => rfl

end Beside

/-- A change where no directory stands does not move what is found at its end. -/
theorem AgreeOff.locate_of_ok {place : Location} (ha : AgreeOff [place] t t')
    (hd : t.get? place ≠ some .dir) {spot : Spot} (h : t.locate p = .ok spot) :
    t'.locate p = .ok spot := by
  have he := (locate_ok h).1
  rw [← h]
  exact locate_congr ha.longestPath (by rw [he, ha.enter_ok hd he])

end FileTree

end SensorLink
