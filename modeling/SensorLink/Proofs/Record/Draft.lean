import SensorLink.Proofs.Files.Place
import SensorLink.Proofs.Record.Codec

namespace SensorLink

namespace Record

open FileTree

/-- The name of the draft. -/
def draftName (p : Path) : String := p.fileName?.getD fileName ++ ".tmp"

theorem length_draftName (p : Path) :
    (draftName p).length = (p.fileName?.getD fileName).length + 4 := String.length_append _ _

theorem draftName_isName (p : Path) : Path.IsName (draftName p) := by
  have hl := length_draftName p
  refine ⟨?_, ?_, ?_⟩ <;> intro h <;> rw [h] at hl
  · have h0 : ("" : String).length = 0 := rfl
    omega
  · have h1 : ("." : String).length = 1 := rfl
    omega
  · have h2 : (".." : String).length = 2 := rfl
    omega

theorem fileName?_ne_draftName (p : Path) : p.fileName? ≠ some (draftName p) := by
  intro h
  have hl := length_draftName p
  rw [h, Option.getD_some] at hl
  omega

theorem place?_ne_draft (t : FileTree) (p : Path) (dir : Location) :
    ∀ loc ∈ [draftName p :: dir], t.place? p ≠ some loc := by
  intro loc hm hp
  rw [List.mem_singleton] at hm
  unfold FileTree.place? at hp
  split at hp
  · rename_i dir' f slash hl
    exact ne_sibling (fileName?_ne_draftName p) hl ((Option.some.inj hp).trans hm)
  · cases hp

/-- The directory that a draft stands in, or would: no directory bears its name. -/
structure Beside (t : FileTree) (p : Path) (dir : Location) : Prop where
  located : t.locate (draftPath p) = .ok ⟨dir, .name (draftName p) false⟩
  free : t.get? (draftName p :: dir) ≠ some .dir

/-- A directory in which the draft of a record can be written. -/
structure Drafting (t : FileTree) (p : Path) (dir : Location) : Prop extends Beside t p dir where
  fits : ¬ maxName < (draftName p).utf8ByteSize

namespace Beside

variable {t t' : FileTree} {p : Path} {dir : Location}

theorem place? (h : Beside t p dir) : t.place? (draftPath p) = some (draftName p :: dir) :=
  place?_of_locate h.located

/-- A draft that comes, changes or goes leaves the way to the record and to the draft as it was. -/
theorem locate (h : Beside t p dir) (ha : AgreeOff [draftName p :: dir] t t') :
    t'.locate p = t.locate p ∧ t'.locate (draftPath p) = t.locate (draftPath p) :=
  ha.locate (draftName_isName p) (fileName?_ne_draftName p) h.located h.free

/-- A draft that comes, changes or goes does not change what the record reads. -/
theorem readAt (h : Beside t p dir) (ha : AgreeOff [draftName p :: dir] t t') :
    readAt t' p = readAt t p := by
  simp only [Record.readAt, ha.read (h.locate ha).1 (place?_ne_draft t p dir)]

/-- A change where no directory comes or goes leaves the draft where it is. -/
theorem set (h : Beside t p dir) {loc : Location} {e : Option Entry} (hd : t.get? loc ≠ some .dir)
    (he : e ≠ some .dir) : Beside (t.set loc e) p dir where
  located := (t.agreeOff_set loc e).locate_of_ok hd h.located
  free := by
    by_cases hl : draftName p :: dir = loc
    · rw [← hl, get?_set_self _ _ (List.cons_ne_nil _ _)]
      exact he
    · rw [get?_set_ne _ _ hl]
      exact h.free

theorem writeAt_of_tooLong (h : Beside t p dir) (hn : maxName < (draftName p).utf8ByteSize)
    {state record : Bytes} (hs : state ≠ []) (he : encode state = .ok record) :
    writeAt t p state = (.error (.io .nameTooLong), t) := by
  have hc : t.create (draftPath p) = .error .nameTooLong := by
    simp [FileTree.create, h.located, FileTree.child?, hn, bind, Except.bind]
  have hu : t.unlink (draftPath p) = .error .nameTooLong := by
    simp [FileTree.unlink, h.located, FileTree.child?, hn, bind, Except.bind]
  rw [writeAt, if_neg hs, he]
  simp only [replaceSteps, Step.runAll, Step.run, hc, discardDraft, hu]

end Beside

namespace Drafting

variable {t t' : FileTree} {p : Path} {dir : Location}

theorem child? (h : Drafting t p dir) :
    t.child? dir (draftName p) = .ok (t.get? (draftName p :: dir)) := if_neg h.fits

theorem get?_put (data : Bytes) : (t.put (draftName p :: dir) (.file data)).get?
    (draftName p :: dir) = some (.file data) := t.get?_put_self _ (List.cons_ne_nil _ _)

theorem put (h : Drafting t p dir) (data : Bytes) :
    Drafting (t.put (draftName p :: dir) (.file data)) p dir where
  located := (h.locate (t.agreeOff_put _ _)).2.trans h.located
  fits := h.fits
  free := by simp [get?_put]

theorem create (h : Drafting t p dir) :
    t.create (draftPath p) = .ok (t.put (draftName p :: dir) (.file [])) := by
  simp only [FileTree.create, h.located, h.child?, bind, Except.bind]
  split
  · rename_i hd
    exact absurd hd h.free
  · rfl

theorem of_create (h : t.create (draftPath p) = .ok t') : ∃ dir, Drafting t p dir := by
  cases hl : t.locate (draftPath p) with
  | error e => simp [FileTree.create, hl, bind, Except.bind] at h
  | ok spot =>
    have ht : spot.target = .name (draftName p) false := locate_sibling (draftName_isName p) hl
    obtain ⟨dir, target⟩ := spot
    subst ht
    have hf : ¬ maxName < (draftName p).utf8ByteSize := by
      intro hn
      simp [FileTree.create, hl, FileTree.child?, hn, bind, Except.bind] at h
    refine ⟨dir, ⟨hl, ?_⟩, hf⟩
    · intro hd
      simp [FileTree.create, hl, FileTree.child?, hf, hd, bind, Except.bind] at h

theorem append (h : Drafting t p dir) (data more : Bytes) :
    (t.put (draftName p :: dir) (.file data)).append (draftPath p) more =
      .ok (t.put (draftName p :: dir) (.file (data ++ more))) := by
  have h' := h.put data
  simp only [FileTree.append, h'.located, h'.child?, get?_put, bind, Except.bind, put_put]
  rfl

theorem unlink (h : Drafting t p dir) (data : Bytes) :
    (t.put (draftName p :: dir) (.file data)).unlink (draftPath p) =
      .ok (t.erase (draftName p :: dir)) := by
  have h' := h.put data
  simp only [FileTree.unlink, h'.located, h'.child?, get?_put, bind, Except.bind, erase_put]
  rfl

theorem of_unlink (h : t.unlink (draftPath p) = .ok t') :
    ∃ dir, Drafting t p dir ∧ t' = t.erase (draftName p :: dir) := by
  rw [unlink_eq] at h
  cases hr : t.fileAt (draftPath p) with
  | error e =>
    rw [hr] at h
    cases h
  | ok found =>
    obtain ⟨loc, data⟩ := found
    rw [hr] at h
    cases h
    obtain ⟨dir, f, hl, hfit, hget, rfl⟩ := fileAt_ok hr
    have ht : Target.name f false = .name (draftName p) false :=
      locate_sibling (draftName_isName p) hl
    cases ht
    exact ⟨dir, ⟨⟨hl, by simp [hget]⟩, hfit⟩, rfl⟩

theorem rename (h : Drafting t p dir) (data : Bytes) :
    (t.put (draftName p :: dir) (.file data)).rename (draftPath p) p =
      (t.landing p).map fun loc => (t.erase (draftName p :: dir)).put loc (.file data) := by
  have h' := h.put data
  have ha := t.agreeOff_put (draftName p :: dir) (.file data)
  have hl := (h.locate ha).1
  cases hp : t.locate p with
  | error e =>
    simp [FileTree.rename, FileTree.landing, h'.located, hl, hp, bind, Except.bind, Except.map]
  | ok spot =>
    obtain ⟨dir', target⟩ := spot
    -- a file can be moved to a name only, and not over a directory
    cases target with
    | name f slash =>
      have hc := ha.child?_of_locate (place?_ne_draft t p dir) hp
      simp only [FileTree.rename, FileTree.landing, h'.located, hl, hp, h'.child?, get?_put, hc,
        bind, Except.bind]
      cases t.child? dir' f with
      | error e => rfl
      | ok old =>
        cases slash with
        | true => rfl
        | false =>
          by_cases hd : old = some .dir
          · simp [hd, Except.map]
          · simp only [Bool.false_eq_true, if_false, if_neg hd, erase_put]
            rfl
    | here | above | root =>
      simp [FileTree.rename, FileTree.landing, h'.located, hl, hp, bind, Except.bind, Except.map]

theorem writeAt (h : Drafting t p dir) {state record : Bytes} (hs : state ≠ [])
    (he : encode state = .ok record) :
    writeAt t p state =
      match t.landing p with
      | .ok loc => (.ok (), (t.erase (draftName p :: dir)).put loc (.file record))
      | .error e => (.error (.io e), t.erase (draftName p :: dir)) := by
  rw [Record.writeAt, if_neg hs, he]
  simp only [replaceSteps, Step.runAll, Step.run, h.create, h.append, h.rename, List.nil_append]
  cases t.landing p with
  | error e => simp only [Except.map, discardDraft, h.unlink]
  | ok loc => rfl

/-- After the move the record reads as the draft did, and no draft is left. -/
theorem readAt_replaced (h : Drafting t p dir) {dir' : Location} {f : String}
    (hp : t.locate p = .ok ⟨dir', .name f false⟩)
    (hf : t.child? dir' f = .ok (t.get? (f :: dir'))) (hd : t.get? (f :: dir') ≠ some .dir)
    {state record : Bytes} (he : encode state = .ok record) :
    Record.readAt ((t.erase (draftName p :: dir)).put (f :: dir') (.file record)) p =
      .ok (some state) := by
  -- neither the removal of the draft nor the new record moves the place of the record
  have hne : f :: dir' ∉ [draftName p :: dir] := fun hm =>
    place?_ne_draft t p dir _ hm (place?_of_locate hp)
  have hgone := t.agreeOff_erase (draftName p :: dir)
  have hdone := (t.erase (draftName p :: dir)).agreeOff_put (f :: dir') (.file record)
  have hl : ((t.erase (draftName p :: dir)).put (f :: dir') (.file record)).locate p =
      .ok ⟨dir', .name f false⟩ := by
    apply hdone.locate_of_ok
    · rw [hgone.get? _ hne]
      exact hd
    · rw [(h.locate hgone).1, hp]
  have hc : ((t.erase (draftName p :: dir)).put (f :: dir') (.file record)).child? dir' f =
      .ok (some (.file record)) := by
    have hfit : ¬ maxName < f.utf8ByteSize := by
      intro hn
      simp [FileTree.child?, hn] at hf
    rw [FileTree.child?, if_neg hfit, get?_put_self _ _ (List.cons_ne_nil _ _)]
  have hr : ((t.erase (draftName p :: dir)).put (f :: dir') (.file record)).read p =
      .ok record := by
    simp only [FileTree.read, hl, hc, bind, Except.bind]
    rfl
  simp only [Record.readAt, hr, decode_of_encode he]

end Drafting

end Record

end SensorLink
