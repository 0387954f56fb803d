import SensorLink.Proofs.Files.Below
import SensorLink.Proofs.Record.Atomic

namespace SensorLink

namespace FileTree

variable {t t' : FileTree} {p q : Path}

theorem sameDirs_create (h : t.create p = .ok t') : SameDirs t t' := by
  simp only [create, bind, Except.bind] at h
  split at h
  · cases h
  · split at h
    · split at h
      · cases h
      · rename_i old hc
        split at h
        · cases h
        · rename_i hd
          cases h
          exact .of_set (by rw [child?_eq_ok hc]; exact hd) (by simp)
    · cases h

theorem sameDirs_append {bytes : Bytes} (h : t.append p bytes = .ok t') : SameDirs t t' := by
  simp only [append, bind, Except.bind] at h
  split at h
  · cases h
  · split at h
    · split at h
      · cases h
      · rename_i old hc
        split at h
        · cases h
        · cases h
        · cases h
          exact .of_set (by rw [child?_eq_ok hc]; simp) (by simp)
    · cases h

theorem sameDirs_unlink (h : t.unlink p = .ok t') : SameDirs t t' := by
  rw [unlink_eq] at h
  cases hr : t.fileAt p with
  | error e =>
    rw [hr] at h
    cases h
  | ok found =>
    obtain ⟨loc, data⟩ := found
    rw [hr] at h
    cases h
    obtain ⟨dir, f, -, -, hget, rfl⟩ := fileAt_ok hr
    exact .of_set (by simp [hget]) (by simp)

theorem sameDirs_rename (h : t.rename p q = .ok t') : SameDirs t t' := by
  simp only [rename, bind, Except.bind] at h
  split at h
  · cases h
  · split at h
    · cases h
    · split at h
      · split at h
        · cases h
        · rename_i old hc
          split at h
          · cases h
          · cases h
          · split at h
            · cases h
            · rename_i old' hc'
              split at h
              · cases h
              · split at h
                · cases h
                · rename_i hd
                  cases h
                  have herase := SameDirs.of_set (t := t) (e := none) (by rw [child?_eq_ok hc]; simp)
                    (by simp)
                  refine herase.trans (.of_set (fun hdir => hd ?_) (by simp))
                  rw [← child?_eq_ok hc']
                  exact (herase _).1 hdir
      · cases h

end FileTree

namespace Record

open FileTree

variable {t t' : FileTree}

theorem Step.sameDirs {p : Path} {step : Step} (h : step.run p t = .ok t') : SameDirs t t' := by
  cases step with
  | create => exact sameDirs_create h
  | append bytes => exact sameDirs_append h
  | sync =>
    cases h
    exact .refl t
  | rename => exact sameDirs_rename h

theorem Step.sameDirs_runAll (p : Path) (t : FileTree) (steps : List Step) :
    SameDirs t (Step.runAll p t steps).2 := by
  induction steps generalizing t with
  | nil => exact .refl t
  | cons step rest ih =>
    rw [Step.runAll]
    cases hs : step.run p t with
    | error e => exact .refl t
    | ok t₁ => exact (Step.sameDirs hs).trans (ih t₁)

theorem sameDirs_discardDraft (t : FileTree) (p : Path) : SameDirs t (discardDraft t p) := by
  unfold discardDraft
  split
  · exact sameDirs_unlink ‹_›
  · exact .refl t

theorem sameDirs_writeAt (t : FileTree) (p : Path) (state : Bytes) :
    SameDirs t (writeAt t p state).2 := by
  unfold writeAt
  split
  · unfold removeAt
    split
    · exact sameDirs_unlink ‹_›
    · exact .refl t
    · exact .refl t
  · split
    · exact .refl t
    · rename_i record _
      have hall := Step.sameDirs_runAll p t (replaceSteps record)
      split <;> rename_i hr <;> rw [hr] at hall
      · exact hall
      · exact hall.trans (sameDirs_discardDraft _ p)

theorem fileName_isName : Path.IsName fileName := ⟨by decide, by decide, by decide⟩

/-- What stands under a record's name decides what is read of it. -/
theorem read_below {base : Path} (hd : t.isDir base = true)
    (hlen : (base.join fileName).byteCount ≤ t.longestPath) :
    ∃ dir, t.enter [] base.segments = .ok dir ∧
      t.read (base.join fileName) = t.readEntry (fileName :: dir) :=
  read_join hd fileName_isName (by decide) (by decide) (Nat.not_lt.2 hlen)

theorem draftName_join (dir : Path) : draftName (dir.join fileName) = fileName ++ ".tmp" := by
  rw [draftName, dir.fileName?_join fileName_isName, Option.getD_some]

def placesBelow (t : FileTree) (dir : Path) : List Location :=
  match t.enter [] dir.segments with
  | .ok d => [fileName :: d, (fileName ++ ".tmp") :: d]
  | .error _ => []

theorem places_join_subset (t : FileTree) (dir : Path) :
    places t (dir.join fileName) ⊆ placesBelow t dir := by
  intro loc hm
  rcases List.mem_append.1 hm with hp | hp
  · obtain ⟨d, hd, rfl⟩ := place?_join fileName_isName (Option.mem_toList.1 hp)
    rw [placesBelow, hd]
    exact List.mem_cons_self ..
  · obtain ⟨d, hd, rfl⟩ := place?_sibling_join fileName_isName (draftName_isName _)
      (Option.mem_toList.1 hp)
    rw [placesBelow, hd]
    rw [draftName_join]
    exact List.mem_cons_of_mem _ (List.mem_cons_self ..)

/-- Of all entries, only the record below the directory and its draft may differ; where one of them
is a directory, it stays. -/
structure OnlyRecord (dir : Path) (t t' : FileTree) : Prop where
  dirs : SameDirs t t'
  agreeOff : AgreeOff (placesBelow t dir) t t'

namespace OnlyRecord

variable {t'' : FileTree} {dir : Path}

theorem refl (dir : Path) (t : FileTree) : OnlyRecord dir t t := ⟨.refl t, .refl _ t⟩

theorem placesBelow_eq (h : SameDirs t t') : placesBelow t' dir = placesBelow t dir := by
  unfold placesBelow
  cases he : t.enter [] dir.segments with
  | ok d => rw [h.enter_ok he]
  | error e =>
    cases he' : t'.enter [] dir.segments with
    | error e' => rfl
    | ok d =>
      rw [h.symm.enter_ok he'] at he
      cases he

theorem trans (h : OnlyRecord dir t t') (h' : OnlyRecord dir t' t'') : OnlyRecord dir t t'' :=
  ⟨h.dirs.trans h'.dirs, h.agreeOff.trans (placesBelow_eq h.dirs ▸ h'.agreeOff)⟩

end OnlyRecord

theorem onlyRecord_writeAt (t : FileTree) (dir : Path) (state : Bytes) :
    OnlyRecord dir t (writeAt t (dir.join fileName) state).2 := by
  refine ⟨sameDirs_writeAt t _ state, AgreeOff.mono ?_ (places_join_subset t dir)⟩
  rcases writeAt_cases t (dir.join fileName) state with ⟨e, -, hu⟩ | ⟨-, hr⟩
  · exact hu.agreeOff
  · exact hr.agreeOff

/-- Where the directory is missing, no state is recorded. -/
theorem writeAt_of_missing {dir : Path} (hm : t.Missing dir) {state : Bytes} (hs : state ≠ []) :
    ∃ e, (writeAt t (dir.join fileName) state).1 = .error e := by
  rcases writeAt_cases t (dir.join fileName) state with ⟨e, he, -⟩ | ⟨-, hr⟩
  · exact ⟨e, he⟩
  · -- what was recorded could be read below the directory
    have hread := hr.readAt
    obtain ⟨e, hl⟩ :=
      ((onlyRecord_writeAt t dir state).dirs.missing hm).locate_join fileName_isName
    rw [content, if_neg hs, Record.readAt, FileTree.read, hl] at hread
    cases e <;> cases hread

theorem writeAt_snd_of_missing {dir : Path} (hm : t.Missing dir) (state : Bytes) :
    (writeAt t (dir.join fileName) state).2 = t := by
  -- neither the record nor its draft can be looked up, so no step gets anywhere
  obtain ⟨e, hrecord⟩ := hm.locate_join fileName_isName
  obtain ⟨e', hdraft⟩ : ∃ e', t.locate (draftPath (dir.join fileName)) = .error e' :=
    hm.locate_sibling_join fileName_isName (draftName_isName _)
  have hcreate : t.create (draftPath (dir.join fileName)) = .error e' := by
    rw [create, hdraft]
    rfl
  have hunlink : t.unlink (draftPath (dir.join fileName)) = .error e' := by
    rw [unlink, hdraft]
    rfl
  unfold writeAt
  split
  · have hremove : t.unlink (dir.join fileName) = .error e := by
      rw [unlink, hrecord]
      rfl
    rw [removeAt, hremove]
    cases e <;> rfl
  · split
    · rfl
    · simp only [replaceSteps, Step.runAll, Step.run, hcreate, discardDraft, hunlink]

end Record

end SensorLink
