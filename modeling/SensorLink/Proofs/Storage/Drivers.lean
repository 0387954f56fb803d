import SensorLink.Double.Backend
import SensorLink.Proofs.Storage.Cell

namespace SensorLink

open FileTree

theorem FileTree.Made.writeEnds {t t' : FileTree} {base p : Path} {state : Bytes}
    {result : Option (Except PersistenceError Unit)} (h : t.Made base)
    (he : Record.WriteEnds t p state result t') : t'.Made base :=
  h.imp_right he.isDir

/-- What the record reads in a directory once that is made. -/
def readMade (base : Path) (t : FileTree) : Except PersistenceError (Option Bytes) :=
  Record.readAt (t.mkdirs base).2 (base.join Record.fileName)

theorem readMade_of_made {base : Path} {t : FileTree} (h : t.Made base) :
    readMade base t = Record.readAt t (base.join Record.fileName) := by
  rw [readMade, mkdirs_of_made h]

theorem readMade_mkdirs (base : Path) (t : FileTree) :
    readMade base (t.mkdirs base).2 = readMade base t := by
  rw [readMade, mkdirs_mkdirs, readMade]

theorem DirectoryBackend.keepsRecord (base : Path) (label : String) :
    KeepsRecord base label (fun (_ : DirectoryBackend) t => t.Made base)
      (fun _ t => readMade base t) where
  shows h := (readMade_of_made h).symm
  write h _ := h.writeEnds .through
  mount_ok {b b' t t'} h := by
    simp only [MountBackend.mount, Prod.mk.injEq] at h
    obtain ⟨hok, -, rfl⟩ := h
    exact ⟨made_of_mkdirs (Prod.ext hok rfl), readMade_mkdirs base t⟩
  mount_error {b b' t t' e} h := by
    simp only [MountBackend.mount, Prod.mk.injEq] at h
    obtain ⟨-, -, rfl⟩ := h
    exact readMade_mkdirs base t
  unmount_ok ho h := by
    cases h
    rfl
  unmount_error ho h := by cases h

namespace ScriptedBackend

def held (base : Path) (b : ScriptedBackend) (t : FileTree) :
    Except PersistenceError (Option Bytes) :=
  if b.directory then readMade base t else Record.readAt t (base.join Record.fileName)

theorem held_of_mount {base : Path} {label : String} {b b' : ScriptedBackend} {t t' : FileTree}
    {result : Except IoError Unit} (h : b.mount base label t = (result, b', t')) :
    held base b' t' = held base b t ∧ (result = .ok () → b'.directory = true → t'.Made base) := by
  unfold mount at h
  dsimp only at h
  split at h
  · cases h
    exact ⟨rfl, by simp⟩
  · split at h
    · rename_i hd
      cases h
      refine ⟨?_, fun hok _ => made_of_mkdirs (Prod.ext hok rfl)⟩
      rw [held, held, if_pos hd, if_pos hd, readMade_mkdirs]
    · rename_i hd
      cases h
      exact ⟨rfl, fun _ hd' => absurd hd' hd⟩

theorem of_unmount {base : Path} {label : String} {b b' : ScriptedBackend} {t t' : FileTree}
    {result : Except IoError Unit} (h : b.unmount base label t = (result, b', t')) :
    b'.directory = b.directory ∧ t' = t := by
  cases h
  exact ⟨rfl, rfl⟩

theorem keepsRecord (base : Path) (label : String) :
    KeepsRecord base label (fun (b : ScriptedBackend) t => b.directory = true → t.Made base)
      (held base) where
  shows {b t} h := by
    unfold held
    split
    · rename_i hd
      exact (readMade_of_made (h hd)).symm
    · rfl
  write h _ hd := (h hd).writeEnds .through
  mount_ok h := ⟨(held_of_mount h).2 rfl, (held_of_mount h).1⟩
  mount_error h := (held_of_mount h).1
  unmount_ok ho h := by
    obtain ⟨hd, rfl⟩ := of_unmount h
    rw [held, held, hd]
  unmount_error ho h := by
    obtain ⟨hd, rfl⟩ := of_unmount h
    exact ⟨fun hd' => ho (hd ▸ hd'), by rw [held, held, hd]⟩

end ScriptedBackend

end SensorLink
