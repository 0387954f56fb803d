import SensorLink.Proofs.Record.Draft

namespace SensorLink

namespace Record

open FileTree

/-- What writes at a path report one after the other, each with what the path reads then. -/
def writes (p : Path) : FileTree → List Bytes →
    List (Except PersistenceError Unit × Except PersistenceError (Option Bytes))
  | _, [] => []
  | t, state :: rest =>
    ((writeAt t p state).1, readAt (writeAt t p state).2 p) :: writes p (writeAt t p state).2 rest

/-- The trees differ in the draft of a record at most, and no directory stands in its place. -/
structure SameButDraft (p : Path) (dir : Location) (t t' : FileTree) : Prop where
  left : Beside t p dir
  right : Beside t' p dir
  agreeOff : AgreeOff [draftName p :: dir] t t'

theorem removeAt_eq (t : FileTree) (p : Path) :
    removeAt t p =
      match t.fileAt p with
      | .ok (loc, _) => (.ok (), t.erase loc)
      | .error .notFound => (.ok (), t)
      | .error e => (.error (.io e), t) := by
  rw [removeAt, unlink_eq]
  cases t.fileAt p with
  | ok found => rfl
  | error e => cases e <;> rfl

namespace SameButDraft

variable {p : Path} {dir : Location} {t t' : FileTree}

theorem set (h : SameButDraft p dir t t') {loc : Location} {e : Option Entry}
    (hd : t.get? loc ≠ some .dir) (he : e ≠ some .dir) :
    SameButDraft p dir (t.set loc e) (t'.set loc e) where
  left := h.left.set hd he
  right := by
    refine h.right.set ?_ he
    by_cases hl : loc = draftName p :: dir
    · rw [hl]
      exact h.right.free
    · rw [h.agreeOff.get? loc (by simpa using hl)]
      exact hd
  agreeOff := h.agreeOff.set loc e

theorem discard (h : SameButDraft p dir t t') :
    SameButDraft p dir (t.erase (draftName p :: dir)) (t'.erase (draftName p :: dir)) :=
  h.set h.left.free (Option.some_ne_none _).symm

theorem remove (h : SameButDraft p dir t t') :
    (removeAt t' p).1 = (removeAt t p).1 ∧ SameButDraft p dir (removeAt t p).2 (removeAt t' p).2 := by
  rw [removeAt_eq, removeAt_eq,
    h.agreeOff.fileAt (h.left.locate h.agreeOff).1 (place?_ne_draft t p dir)]
  cases hr : t.fileAt p with
  | ok found =>
    obtain ⟨loc, data⟩ := found
    obtain ⟨dir', f, -, -, hget, rfl⟩ := fileAt_ok hr
    exact ⟨rfl, h.set (by simp [hget]) (Option.some_ne_none _).symm⟩
  | error e => cases e <;> exact ⟨rfl, h⟩

theorem replace (h : SameButDraft p dir t t') {state record : Bytes} (hs : state ≠ [])
    (he : encode state = .ok record) :
    (writeAt t' p state).1 = (writeAt t p state).1 ∧
      SameButDraft p dir (writeAt t p state).2 (writeAt t' p state).2 := by
  -- a draft whose name is too long fails both writes before they do anything
  by_cases hn : maxName < (draftName p).utf8ByteSize
  · rw [h.left.writeAt_of_tooLong hn hs he, h.right.writeAt_of_tooLong hn hs he]
    exact ⟨rfl, h⟩
  · have hd : Drafting t p dir := ⟨h.left, hn⟩
    have hd' : Drafting t' p dir := ⟨h.right, hn⟩
    rw [hd.writeAt hs he, hd'.writeAt hs he,
      h.agreeOff.landing (h.left.locate h.agreeOff).1 (place?_ne_draft t p dir)]
    cases hl : t.landing p with
    | error e => exact ⟨rfl, h.discard⟩
    | ok loc =>
      obtain ⟨dir', f, hp, -, hfree, rfl⟩ := landing_ok hl
      refine ⟨rfl, h.discard.set ?_ (by simp)⟩
      have hne : f :: dir' ∉ [draftName p :: dir] := fun hm =>
        place?_ne_draft t p dir _ hm (place?_of_locate hp)
      rw [(t.agreeOff_erase (draftName p :: dir)).get? _ hne]
      exact hfree

theorem write (h : SameButDraft p dir t t') (state : Bytes) :
    (writeAt t' p state).1 = (writeAt t p state).1 ∧
      SameButDraft p dir (writeAt t p state).2 (writeAt t' p state).2 := by
  by_cases hs : state = []
  · subst hs
    exact h.remove
  · cases he : encode state with
    | error fault =>
      rw [writeAt, writeAt, if_neg hs, if_neg hs, he]
      exact ⟨rfl, h⟩
    | ok record => exact h.replace hs he

theorem writes (h : SameButDraft p dir t t') (states : List Bytes) :
    writes p t' states = writes p t states := by
  induction states generalizing t t' with
  | nil => rfl
  | cons state rest ih =>
    obtain ⟨hres, hafter⟩ := h.write state
    rw [Record.writes, Record.writes, hres, hafter.left.readAt hafter.agreeOff, ih hafter]

end SameButDraft

theorem Beside.of_file {t : FileTree} {p : Path} {loc : Location} {junk : Bytes}
    (hp : t.place? (draftPath p) = some loc) (hf : t.get? loc = some (.file junk)) :
    ∃ dir, loc = draftName p :: dir ∧ Beside t p dir := by
  unfold FileTree.place? at hp
  split at hp
  · rename_i dir name slash hl
    have ht : Target.name name slash = .name (draftName p) false :=
      locate_sibling (draftName_isName p) hl
    cases ht
    cases hp
    exact ⟨dir, rfl, hl, by simp [hf]⟩
  · cases hp

/-- A leftover draft changes neither what the path reads nor what later writes report and leave to
be read. -/
theorem reads_writes_of_leftover {t : FileTree} {p : Path} {loc : Location} {junk : Bytes}
    (hp : t.place? (draftPath p) = some loc) (hf : t.get? loc = some (.file junk)) :
    readAt (t.erase loc) p = readAt t p ∧ ∀ states, writes p (t.erase loc) states = writes p t states := by
  obtain ⟨dir, rfl, h⟩ := Beside.of_file hp hf
  have ha := t.agreeOff_erase (draftName p :: dir)
  have hs : SameButDraft p dir t (t.erase (draftName p :: dir)) :=
    ⟨h, h.set h.free (Option.some_ne_none _).symm, ha⟩
  exact ⟨h.readAt ha, hs.writes⟩

end Record

end SensorLink
