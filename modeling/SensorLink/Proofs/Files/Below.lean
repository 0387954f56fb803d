import SensorLink.Proofs.Files.Directories
import SensorLink.Proofs.Files.Place

namespace SensorLink

namespace Path

theorem fileName?_join (p : Path) {name : String} (hn : IsName name) :
    (p.join name).fileName? = some name := by
  obtain ⟨above, hj, -⟩ := p.join_cases name
  have haim : (⟨above ++ [name]⟩ : Path).aim = .name name false := by
    rw [aim_of_last rfl hn.ne_empty (by simp), FileTree.target, if_neg hn.ne_here, if_neg hn.ne_above]
    simp [hn.ne_empty]
  rw [hj]
  exact fileName?_of_aim haim

theorem withFileName_join (p : Path) {name : String} (hn : IsName name) (sibling : String) :
    ∃ above between, (p.join name).withFileName sibling = ⟨above ++ [sibling]⟩ ∧
      (∀ s ∈ between, stays s = true) ∧
      (p.segments = above ++ between ∨ p.segments = above ++ between ++ [""]) := by
  obtain ⟨front, hj, hs⟩ := p.join_cases name
  obtain ⟨above, between, below, hseg, hbetween, hbelow, hw⟩ :=
    withFileName_of_some (p.fileName?_join hn) sibling
  -- nothing stands behind a name that is put at the end
  rw [hj] at hseg
  have hnil : below = [] := by
    rcases below.eq_nil_or_concat with hb | ⟨init, last, hb⟩
    · exact hb
    · rw [hb, List.concat_eq_append, ← List.cons_append, ← List.append_assoc] at hseg
      obtain rfl : name = last := List.singleton_inj.1 (List.append_inj' hseg rfl).2
      have hstays : stays name = true := hbelow name (by simp [hb])
      simp [stays, hn.ne_empty, hn.ne_here] at hstays
  subst hnil
  have hfront : front = above ++ between := (List.append_inj' hseg rfl).1
  exact ⟨above, between, hw, hbetween, hfront ▸ hs⟩

end Path

namespace FileTree

/-- The trees have the same directories. -/
def SameDirs (t t' : FileTree) : Prop := ∀ loc, t'.get? loc = some .dir ↔ t.get? loc = some .dir

namespace SameDirs

variable {t t' t'' : FileTree}

theorem refl (t : FileTree) : SameDirs t t := fun _ => Iff.rfl

theorem trans (h : SameDirs t t') (h' : SameDirs t' t'') : SameDirs t t'' :=
  fun loc => (h' loc).trans (h loc)

theorem symm (h : SameDirs t t') : SameDirs t' t := fun loc => (h loc).symm

theorem of_set {loc : Location} {e : Option Entry} (hd : t.get? loc ≠ some .dir)
    (he : e ≠ some .dir) : SameDirs t (t.set loc e) := by
  intro other
  by_cases hl : other = loc
  · subst hl
    have hroot : other ≠ [] := fun h => hd (h ▸ get?_root t)
    rw [get?_set_self _ _ hroot]
    exact iff_of_false he hd
  · rw [get?_set_ne _ _ hl]

theorem enter_ok (h : SameDirs t t') {dir d : Location} {segments : List String}
    (he : t.enter dir segments = .ok d) : t'.enter dir segments = .ok d :=
  enter_ok_of_dirs (fun loc => (h loc).2) he

end SameDirs

variable {t t' : FileTree} {p : Path} {name : String}

/-- What is put below a path is looked up in the directory that the path leads to. -/
theorem enter_of_front {front segments : List String}
    (h : segments = front ∨ segments = front ++ [""]) : t.enter [] segments = t.enter [] front := by
  rcases h with rfl | rfl
  · rfl
  · exact t.enter_append_of_stays [] (by simp [Path.stays])

theorem place?_of_name (hn : Path.IsName name) {above : List String} {loc : Location}
    (h : t.place? ⟨above ++ [name]⟩ = some loc) :
    ∃ dir, t.enter [] above = .ok dir ∧ loc = name :: dir := by
  unfold place? at h
  split at h
  · rename_i dir f slash hl
    obtain ⟨he, haim⟩ := locate_ok hl
    rw [Path.way_of_last rfl hn.ne_empty (by simp)] at he
    rw [Path.aim_of_last rfl hn.ne_empty (by simp), target, if_neg hn.ne_here, if_neg hn.ne_above]
      at haim
    cases h
    exact ⟨dir, he, by rw [(Target.name.inj haim).1]⟩
  · cases h

theorem place?_join (hn : Path.IsName name) {loc : Location} (h : t.place? (p.join name) = some loc) :
    ∃ dir, t.enter [] p.segments = .ok dir ∧ loc = name :: dir := by
  obtain ⟨above, hj, hs⟩ := p.join_cases name
  rw [hj] at h
  rw [enter_of_front hs]
  exact place?_of_name hn h

theorem place?_sibling_join (hn : Path.IsName name) {sibling : String} (hs : Path.IsName sibling)
    {loc : Location} (h : t.place? ((p.join name).withFileName sibling) = some loc) :
    ∃ dir, t.enter [] p.segments = .ok dir ∧ loc = sibling :: dir := by
  obtain ⟨above, between, hw, hbetween, hseg⟩ := p.withFileName_join hn sibling
  rw [hw] at h
  rw [enter_of_front hseg, t.enter_append_of_stays [] hbetween]
  exact place?_of_name hs h

theorem enter_of_isDir (h : t.isDir p = true) : ∃ dir, t.enter [] p.segments = .ok dir := by
  obtain ⟨spot, hspot⟩ := locate_of_isDir h
  obtain ⟨he, haim⟩ := locate_ok hspot
  rcases Path.blanks_or_last p.segments with hb | ⟨before, last, blanks, hs, hl, hb⟩
  · exact ⟨[], t.enter_of_stays [] fun s hm => by simp [Path.stays, hb s hm]⟩
  · have hblanks : ∀ s ∈ blanks, Path.stays s = true := fun s hm => by simp [Path.stays, hb s hm]
    rw [Path.way_of_last hs hl hb] at he
    rw [Path.aim_of_last hs hl hb] at haim
    rw [hs, ← List.singleton_append, ← List.append_assoc, t.enter_append_of_stays [] hblanks,
      enter_append, he]
    simp only [Except.bind, enter_cons, enter_nil]
    by_cases hdot : last = "."
    · exact ⟨_, if_pos (by simp [Path.stays, hdot])⟩
    · rw [if_neg (by simp [Path.stays, hl, hdot])]
      by_cases hup : last = ".."
      · exact ⟨_, if_pos hup⟩
      · -- the name that the path ends in is a directory's
        rw [target, if_neg hdot, if_neg hup] at haim
        obtain ⟨dir, aim⟩ := spot
        subst haim
        rw [if_neg hup]
        rw [isDir, hspot] at h
        simp only at h ⊢
        split at h
        · rename_i hc
          rw [hc]
          exact ⟨_, rfl⟩
        · cases h

/-- No directory stands where the path leads. -/
def Missing (t : FileTree) (p : Path) : Prop := ∀ dir, t.enter [] p.segments ≠ .ok dir

theorem Missing.isDir (h : t.Missing p) : t.isDir p = false := by
  cases hd : t.isDir p with
  | false => rfl
  | true =>
    obtain ⟨dir, hdir⟩ := enter_of_isDir hd
    exact (h dir hdir).elim

theorem missing_iff (hz : p.hasZero = false) (he : p.isEmpty = false)
    (hlen : ¬ t.longestPath < p.byteCount) : t.Missing p ↔ t.isDir p = false := by
  refine ⟨Missing.isDir, fun hd dir hdir => ?_⟩
  rw [isDir_of_enter hz he hlen hdir] at hd
  cases hd

theorem SameDirs.missing (h : SameDirs t t') (hm : t.Missing p) : t'.Missing p :=
  fun dir hdir => hm dir (h.symm.enter_ok hdir)

theorem Missing.locate_join (h : t.Missing p) (hn : Path.IsName name) :
    ∃ e, t.locate (p.join name) = .error e := by
  cases hl : t.locate (p.join name) with
  | error e => exact ⟨e, rfl⟩
  | ok spot =>
    obtain ⟨above, hj, hs⟩ := p.join_cases name
    have hway := (locate_ok hl).1
    rw [hj, Path.way_of_last rfl hn.ne_empty (by simp), ← enter_of_front hs] at hway
    exact (h spot.dir hway).elim

theorem Missing.locate_sibling_join (h : t.Missing p) (hn : Path.IsName name) {sibling : String}
    (hs : Path.IsName sibling) : ∃ e, t.locate ((p.join name).withFileName sibling) = .error e := by
  cases hl : t.locate ((p.join name).withFileName sibling) with
  | error e => exact ⟨e, rfl⟩
  | ok spot =>
    obtain ⟨above, between, hw, hbetween, hseg⟩ := p.withFileName_join hn sibling
    have hway := (locate_ok hl).1
    rw [hw, Path.way_of_last rfl hs.ne_empty (by simp), ← t.enter_append_of_stays [] hbetween,
      ← enter_of_front hseg] at hway
    exact (h spot.dir hway).elim

def readEntry (t : FileTree) (loc : Location) : Except IoError Bytes :=
  match t.get? loc with
  | none => .error .notFound
  | some .dir => .error .isADirectory
  | some (.file data) => .ok data

theorem read_join (hd : t.isDir p = true) (hn : Path.IsName name)
    (hz : name.toList.contains '\x00' = false) (hmax : ¬ maxName < name.utf8ByteSize)
    (hlen : ¬ t.longestPath < (p.join name).byteCount) :
    ∃ dir, t.enter [] p.segments = .ok dir ∧ t.read (p.join name) = t.readEntry (name :: dir) := by
  obtain ⟨spot, hspot⟩ := locate_of_isDir hd
  obtain ⟨dir, hdir⟩ := enter_of_isDir hd
  obtain ⟨above, hj, hs⟩ := p.join_cases name
  have hzero : (p.join name).hasZero = false := by
    have hp : (⟨above⟩ : Path).hasZero = false := by
      have hp := (fit_of_locate hspot).1
      rcases hs with hs | hs
      · exact Path.hasZero_of_append (by rw [hs, List.append_nil]) hp
      · exact Path.hasZero_of_append hs hp
    rw [Path.hasZero] at hp
    rw [hj, Path.hasZero, List.any_append, hp, List.any_cons, List.any_nil, hz]
    rfl
  have hfull : (p.join name).isEmpty = false := by
    rw [hj]
    simp [Path.isEmpty, hn.ne_empty]
  refine ⟨dir, hdir, ?_⟩
  -- the joined path is looked up in the directory that the path leads to
  have hlast : (p.join name).segments = above ++ name :: [] := by rw [hj]
  have hl : t.locate (p.join name) = .ok ⟨dir, .name name false⟩ := by
    rw [locate_of_fit hzero hfull hlen, Path.way_of_last hlast hn.ne_empty (by simp),
      Path.aim_of_last hlast hn.ne_empty (by simp), ← enter_of_front hs, hdir, target,
      if_neg hn.ne_here, if_neg hn.ne_above, hlast]
    simp [Except.map, hn.ne_empty]
  simp only [FileTree.read, readEntry, hl, child?, if_neg hmax, bind, Except.bind]
  rcases t.get? (name :: dir) with _ | _ | data <;> rfl

end FileTree

end SensorLink
