import SensorLink.Proofs.Record.Leftover
import SensorLink.Proofs.Storage.Restart

namespace SensorLink

namespace Record

open FileTree

/-- A draft of the record can be written, and the record put in its place. -/
structure Writable (t : FileTree) (p : Path) (dir loc : Location) : Prop extends
    Drafting t p dir where
  lands : t.landing p = .ok loc

namespace Writable

variable {t : FileTree} {p : Path} {dir loc : Location}

theorem of_isOk (hc : (t.create (draftPath p)).isOk = true) (hl : (t.landing p).isOk = true) :
    ∃ dir loc, Writable t p dir loc := by
  cases hcreate : t.create (draftPath p) with
  | error e =>
    rw [hcreate] at hc
    cases hc
  | ok t' =>
    cases hlands : t.landing p with
    | error e =>
      rw [hlands] at hl
      cases hl
    | ok loc =>
      obtain ⟨dir, h⟩ := Drafting.of_create hcreate
      exact ⟨dir, loc, h, hlands⟩

theorem set (h : Writable t p dir loc) {place : Location} {e : Option Entry}
    (hd : t.get? place ≠ some .dir) (he : e ≠ some .dir) : Writable (t.set place e) p dir loc where
  toBeside := h.toBeside.set hd he
  fits := h.fits
  lands := by
    obtain ⟨above, f, hp, hc, hfree, rfl⟩ := landing_ok h.lands
    have hfit : ¬ maxName < f.utf8ByteSize := by
      intro hn
      simp [FileTree.child?, hn] at hc
    have hfree' : (t.set place e).get? (f :: above) ≠ some .dir := by
      by_cases hl : f :: above = place
      · rw [← hl, get?_set_self _ _ (List.cons_ne_nil _ _)]
        exact he
      · rw [get?_set_ne _ _ hl]
        exact hfree
    simp [FileTree.landing, (t.agreeOff_set place e).locate_of_ok hd hp, FileTree.child?, hfit,
      hfree', bind, Except.bind, pure, Except.pure]

theorem ne_dir (h : Writable t p dir loc) : t.get? loc ≠ some .dir := by
  obtain ⟨above, f, -, -, hfree, rfl⟩ := landing_ok h.lands
  exact hfree

theorem remove (h : Writable t p dir loc) :
    (removeAt t p).1 = .ok () ∧ Writable (removeAt t p).2 p dir loc := by
  obtain ⟨above, f, hp, hc, hfree, rfl⟩ := landing_ok h.lands
  rw [removeAt_eq]
  rcases hg : t.get? (f :: above) with _ | _ | data
  · have hfile : t.fileAt p = .error .notFound := by
      simp only [FileTree.fileAt, hp, hc, hg, bind, Except.bind]
      rfl
    rw [hfile]
    exact ⟨rfl, h⟩
  · exact absurd hg hfree
  · have hfile : t.fileAt p = .ok (f :: above, data) := by
      simp only [FileTree.fileAt, hp, hc, hg, bind, Except.bind]
      rfl
    rw [hfile]
    exact ⟨rfl, h.set hfree (by simp)⟩

theorem write (h : Writable t p dir loc) (state : Bytes) :
    (state.length < wordCount lengthWidth → (writeAt t p state).1 = .ok ()) ∧
      Writable (writeAt t p state).2 p dir loc := by
  by_cases hs : state = []
  · rw [writeAt, if_pos hs]
    exact ⟨fun _ => h.remove.1, h.remove.2⟩
  · by_cases hl : state.length < wordCount lengthWidth
    · have he : encode state = .ok (leBytes lengthWidth state.length ++ state) := if_pos hl
      have hgone : Writable (t.erase (draftName p :: dir)) p dir loc :=
        h.set h.toBeside.free (by simp)
      rw [h.writeAt hs he, h.lands]
      exact ⟨fun _ => rfl, hgone.set hgone.ne_dir (by simp)⟩
    · have he : encode state = .error (.lengthTooWide state.length) := if_neg hl
      rw [writeAt, if_neg hs, he]
      exact ⟨fun h => absurd h hl, h⟩

end Writable

end Record

namespace Storage

variable {β υ : Type} [MountBackend β] [StateRecorder υ] {path : Path} {files : FileTree}
  {dir loc : Location}

/-- However it is used, a storage in the application's directory stays as it was opened, and its
record can still be written. -/
theorem Reachable.writable {s : Storage β υ}
    (h : (make (.fileApplication path) files : Storage β υ).Reachable s)
    (hw : Record.Writable files (path.join Record.fileName) dir loc) :
    ∃ t, s = make (.fileApplication path) t ∧
      Record.Writable t (path.join Record.fileName) dir loc := by
  induction h with
  | refl => exact ⟨files, rfl, hw⟩
  | mount _ ih | release _ ih =>
    obtain ⟨t, rfl, ht⟩ := ih
    exact ⟨t, rfl, ht⟩
  | persist _ state ih =>
    obtain ⟨t, rfl, ht⟩ := ih
    exact ⟨_, rfl, (ht.write state).2⟩

theorem dependable_of_writable
    (hw : Record.Writable files (path.join Record.fileName) dir loc) :
    (make (.fileApplication path) files : Storage β υ).Dependable := by
  intro s hs
  obtain ⟨t, rfl, ht⟩ := hs.writable hw
  refine ⟨rfl, rfl, fun state hl => ?_, rfl⟩
  rw [persist_iff]
  exact (ht.write state).1 hl

end Storage

end SensorLink
