import SensorLink.Proofs.Files.Change

namespace SensorLink

namespace Path

theorem trimEnd_append (segments : List String) :
    ∃ tail, segments = trimEnd segments ++ tail ∧ ∀ s ∈ tail, stays s = true := by
  refine ⟨(segments.reverse.takeWhile stays).reverse, ?_, ?_⟩
  · rw [trimEnd, ← List.reverse_append, List.takeWhile_append_dropWhile, List.reverse_reverse]
  · intro s hs
    exact List.all_eq_true.1 List.all_takeWhile s (List.mem_reverse.1 hs)

theorem stays_of_getLast?_trimEnd {segments : List String} {s : String}
    (h : (trimEnd segments).getLast? = some s) : stays s = false := by
  have hn := List.head?_dropWhile_not stays segments.reverse
  rw [trimEnd, List.getLast?_reverse] at h
  rw [h] at hn
  exact hn

theorem trimEnd_of_stays {segments : List String} (h : ∀ s ∈ segments, stays s = true) :
    trimEnd segments = [] := by
  have h' : ∀ s ∈ segments.reverse, stays s = true := fun s hs => h s (List.mem_reverse.1 hs)
  have hd : (segments.reverse ++ []).dropWhile stays = [].dropWhile stays :=
    List.dropWhile_append_of_pos h'
  rw [List.append_nil] at hd
  rw [trimEnd, hd]
  rfl

theorem trimEnd_of_last {before tail : List String} {last : String} (hl : stays last = false)
    (ht : ∀ s ∈ tail, stays s = true) : trimEnd (before ++ last :: tail) = before ++ [last] := by
  have ht' : ∀ s ∈ tail.reverse, stays s = true := fun s hs => ht s (List.mem_reverse.1 hs)
  simp only [trimEnd, List.reverse_append, List.reverse_cons, List.append_assoc]
  rw [List.dropWhile_append_of_pos ht', List.singleton_append,
    List.dropWhile_cons_of_neg (by simp [hl])]
  simp

theorem blanks_or_last (segments : List String) : (∀ s ∈ segments, s = "") ∨
    ∃ before last blanks, segments = before ++ last :: blanks ∧ last ≠ "" ∧
      ∀ s ∈ blanks, s = "" := by
  have hs : segments.reverse.takeWhile (· = "") ++ segments.reverse.dropWhile (· = "") =
      segments.reverse := List.takeWhile_append_dropWhile
  have hb : ∀ s ∈ segments.reverse.takeWhile (· = ""), s = "" := fun s h => by
    simpa using List.all_eq_true.1 (List.all_takeWhile (p := (· = ""))) s h
  cases hd : segments.reverse.dropWhile (· = "") with
  | nil =>
    left
    intro s h
    apply hb
    rw [hd, List.append_nil] at hs
    rw [hs]
    exact List.mem_reverse.2 h
  | cons last before =>
    right
    have hl := List.head?_dropWhile_not (· = "") segments.reverse
    rw [hd] at hs hl
    refine ⟨before.reverse, last, (segments.reverse.takeWhile (· = "")).reverse, ?_, ?_, ?_⟩
    · simpa using (congrArg List.reverse hs).symm
    · simpa using hl
    · exact fun s h => hb s (List.mem_reverse.1 h)

/-- The segments that are entered on the way to the last component. -/
def way (p : Path) : List String := ((p.segments.reverse.dropWhile (· = "")).tail).reverse

theorem reverse_dropWhile_of_last {p : Path} {before blanks : List String} {last : String}
    (h : p.segments = before ++ last :: blanks) (hl : last ≠ "") (hb : ∀ s ∈ blanks, s = "") :
    p.segments.reverse.dropWhile (· = "") = last :: before.reverse := by
  have hb' : ∀ s ∈ blanks.reverse, decide (s = "") = true := fun s hs => by
    simpa using hb s (List.mem_reverse.1 hs)
  rw [h, List.reverse_append, List.reverse_cons, List.append_assoc,
    List.dropWhile_append_of_pos hb', List.singleton_append,
    List.dropWhile_cons_of_neg (by simpa using hl)]

theorem way_of_last {p : Path} {before blanks : List String} {last : String}
    (h : p.segments = before ++ last :: blanks) (hl : last ≠ "") (hb : ∀ s ∈ blanks, s = "") :
    p.way = before := by
  rw [way, reverse_dropWhile_of_last h hl hb, List.tail_cons, List.reverse_reverse]

theorem reverse_dropWhile_of_blanks {p : Path} (h : ∀ s ∈ p.segments, s = "") :
    p.segments.reverse.dropWhile (· = "") = [] := by
  have hb : ∀ s ∈ p.segments.reverse, decide (s = "") = true := fun s hs => by
    simpa using h s (List.mem_reverse.1 hs)
  have hd : (p.segments.reverse ++ []).dropWhile (· = "") = [].dropWhile (· = "") :=
    List.dropWhile_append_of_pos hb
  rwa [List.append_nil] at hd

theorem way_of_blanks {p : Path} (h : ∀ s ∈ p.segments, s = "") : p.way = [] := by
  rw [way, reverse_dropWhile_of_blanks h]
  rfl

def aim (p : Path) : Target :=
  match p.segments.reverse.dropWhile (· = "") with
  | [] => .root
  | last :: _ => FileTree.target last (p.segments.getLast? = some "")

theorem aim_of_last {p : Path} {before blanks : List String} {last : String}
    (h : p.segments = before ++ last :: blanks) (hl : last ≠ "") (hb : ∀ s ∈ blanks, s = "") :
    p.aim = FileTree.target last (p.segments.getLast? = some "") := by
  rw [aim, reverse_dropWhile_of_last h hl hb]

theorem aim_of_blanks {p : Path} (h : ∀ s ∈ p.segments, s = "") : p.aim = .root := by
  rw [aim, reverse_dropWhile_of_blanks h]

theorem fileName?_of_aim {p : Path} {f : String} {slash : Bool} (h : p.aim = .name f slash) :
    p.fileName? = some f := by
  obtain ⟨segments⟩ := p
  rcases blanks_or_last segments with hb | ⟨before, last, blanks, hs, hl, hb⟩
  · rw [aim_of_blanks hb] at h
    cases h
  · have hn : last ≠ "." ∧ last ≠ ".." ∧ last = f := by
      rw [aim_of_last hs hl hb, FileTree.target] at h
      split at h
      · cases h
      · split at h
        · cases h
        · rename_i hdot hup
          exact ⟨hdot, hup, (Target.name.inj h).1⟩
    obtain ⟨hdot, hup, rfl⟩ := hn
    have hst : stays last = false := by simp [stays, hl, hdot]
    have hblanks : ∀ s ∈ blanks, stays s = true := fun s hs => by simp [stays, hb s hs]
    subst hs
    cases before with
    | nil =>
      have ht : trimEnd blanks = [] := trimEnd_of_stays hblanks
      simp [fileName?, ht, hst, hup]
    | cons first rest =>
      have ht : trimEnd (rest ++ last :: blanks) = rest ++ [last] := trimEnd_of_last hst hblanks
      simp [fileName?, ht, hst, hup]

theorem parent?_of_trimEnd (first : String) {last : String} {rest names : List String}
    (ht : trimEnd rest = names ++ [last]) : (⟨first :: rest⟩ : Path).parent? =
      if first = "" ∧ trimEnd names = [] then some ⟨["", ""]⟩
      else some ⟨first :: trimEnd names⟩ := by
  cases names with
  | nil => simp [parent?, ht]
  | cons n ns =>
    simp only [parent?, ht, List.cons_append]
    rw [← List.cons_append, List.dropLast_concat]

theorem parent?_of_last (first : String) {last : String} {rest names : List String}
    (ht : trimEnd rest = names ++ [last]) :
    ∃ above, (⟨first :: rest⟩ : Path).parent? = some above ∧
      ∀ name, above.join name = ⟨first :: trimEnd names ++ [name]⟩ := by
  have hp := parent?_of_trimEnd first ht
  by_cases hroot : first = "" ∧ trimEnd names = []
  · refine ⟨⟨["", ""]⟩, hp.trans (if_pos hroot), fun name => ?_⟩
    rw [hroot.1, hroot.2]
    rfl
  · refine ⟨⟨first :: trimEnd names⟩, hp.trans (if_neg hroot), fun name => ?_⟩
    -- a blank at the end would have been trimmed
    have hlast : (first :: trimEnd names).getLast? ≠ some "" := by
      intro he
      cases hn : trimEnd names with
      | nil =>
        rw [hn] at he
        exact hroot ⟨by simpa using he, hn⟩
      | cons n ns =>
        have hs : (trimEnd names).getLast? = some "" := by
          rw [hn] at he ⊢
          simpa using he
        exact absurd (stays_of_getLast?_trimEnd hs) (by decide)
    rw [join, if_neg hlast]

theorem fileName?_eq_some {p : Path} {f : String} (h : p.fileName? = some f) :
    stays f = false ∧ f ≠ ".." := by
  unfold fileName? at h
  split at h
  · cases h
  · dsimp only at h
    split at h
    · cases h
    · rename_i hn
      cases h
      simpa using hn

theorem ne_empty_of_fileName? {p : Path} {f : String} (h : p.fileName? = some f) : f ≠ "" := by
  rintro rfl
  exact absurd (fileName?_eq_some h).1 (by decide)

theorem withFileName_of_some {p : Path} {f : String} (h : p.fileName? = some f) (name : String) :
    ∃ above between below, p.segments = above ++ between ++ f :: below ∧
      (∀ s ∈ between, stays s = true) ∧ (∀ s ∈ below, stays s = true) ∧
      p.withFileName name = ⟨above ++ [name]⟩ := by
  obtain ⟨segments⟩ := p
  cases segments with
  | nil => simp [fileName?] at h
  | cons first rest =>
    obtain ⟨below, hrest, hbelow⟩ := trimEnd_append rest
    rcases List.eq_nil_or_concat (trimEnd rest) with ht | ⟨names, last, ht⟩
    · -- the path is one component
      have hf : first = f ∧ first ≠ "" := by
        simp only [fileName?, ht, List.getLast?_nil, Option.getD_none] at h
        split at h
        · cases h
        · rename_i hn
          refine ⟨Option.some.inj h, ?_⟩
          rintro rfl
          simp [stays] at hn
      refine ⟨[], [], below, ?_, by simp, hbelow, ?_⟩
      · simp only [List.nil_append, hf.1, List.cons.injEq, true_and]
        rw [hrest, ht, List.nil_append]
      · have hp : (⟨first :: rest⟩ : Path).parent? = some ⟨[""]⟩ := by
          simp [parent?, ht, hf.2]
        simp only [withFileName, h, hp]
        rfl
    -- the name is the last component, behind others
    · rw [List.concat_eq_append] at ht
      obtain ⟨between, hnames, hbetween⟩ := trimEnd_append names
      obtain ⟨above, hp, hj⟩ := parent?_of_last first ht
      have hf : last = f := by
        simp only [fileName?, ht, List.getLast?_append, List.getLast?_singleton,
          Option.some_or, Option.getD_some] at h
        split at h
        · cases h
        · exact Option.some.inj h
      refine ⟨first :: trimEnd names, between, below, ?_, hbetween, hbelow, ?_⟩
      · simp only [List.cons_append, List.cons.injEq, true_and]
        rw [← hnames, hrest, ht, hf]
        simp
      · simp only [withFileName, h, hp]
        exact hj name

theorem join_cases (p : Path) (name : String) : ∃ above, p.join name = ⟨above ++ [name]⟩ ∧
    (p.segments = above ∨ p.segments = above ++ [""]) := by
  unfold join
  split
  · rename_i hlast
    rw [List.getLast?_eq_some_iff] at hlast
    obtain ⟨init, hi⟩ := hlast
    exact ⟨init, by rw [hi, List.dropLast_concat], Or.inr hi⟩
  · exact ⟨p.segments, rfl, Or.inl rfl⟩

theorem withFileName_of_none {p : Path} (h : p.fileName? = none) (name : String) :
    ∃ above, p.withFileName name = ⟨above ++ [name]⟩ ∧
      (p.segments = above ∨ p.segments = above ++ [""]) := by
  have hj : p.withFileName name = p.join name := by simp only [withFileName, h]
  rw [hj]
  exact p.join_cases name

structure IsName (name : String) : Prop where
  ne_empty : name ≠ ""
  ne_here : name ≠ "."
  ne_above : name ≠ ".."

end Path

namespace FileTree

variable {t t' : FileTree} {p : Path} {name : String}

theorem locate_ok {spot : Spot} (h : t.locate p = .ok spot) :
    t.enter [] p.way = .ok spot.dir ∧ spot.target = p.aim := by
  unfold locate at h
  split at h
  · cases h
  · split at h
    · cases h
    · split at h
      · cases h
      · split at h
        · rename_i hd
          cases h
          simp [Path.way, Path.aim, hd]
        · rename_i last before hd
          cases he : t.enter [] before.reverse with
          | error e =>
            rw [he] at h
            cases h
          | ok dir =>
            rw [he] at h
            cases h
            simp [Path.way, Path.aim, hd, he]

theorem locate_of_fit (hz : p.hasZero = false) (he : p.isEmpty = false)
    (hlen : ¬ t.longestPath < p.byteCount) :
    t.locate p = (t.enter [] p.way).map fun dir => ⟨dir, p.aim⟩ := by
  unfold locate
  rw [if_neg (by simp [hz]), if_neg (by simp [he]), if_neg hlen]
  cases hd : p.segments.reverse.dropWhile (· = "") with
  | nil => simp [Path.way, Path.aim, hd, Except.map]
  | cons last before => simp [Path.way, Path.aim, hd]

theorem locate_congr (hl : t'.longestPath = t.longestPath)
    (h : t'.enter [] p.way = t.enter [] p.way) : t'.locate p = t.locate p := by
  simp only [locate, hl]
  cases hd : p.segments.reverse.dropWhile (· = "") with
  | nil => rfl
  | cons last before =>
    have hw : p.way = before.reverse := by rw [Path.way, hd, List.tail_cons]
    rw [hw] at h
    simp only [h]

theorem way_of_sibling (hn : Path.IsName name) {above : List String}
    (hp : p.withFileName name = ⟨above ++ [name]⟩) : (p.withFileName name).way = above := by
  rw [hp]
  exact Path.way_of_last rfl hn.ne_empty (by simp)

theorem exists_above (p : Path) (name : String) :
    ∃ above, p.withFileName name = ⟨above ++ [name]⟩ := by
  cases hf : p.fileName? with
  | none =>
    obtain ⟨above, hp, -⟩ := Path.withFileName_of_none hf name
    exact ⟨above, hp⟩
  | some f =>
    obtain ⟨above, -, -, -, -, -, hp⟩ := Path.withFileName_of_some hf name
    exact ⟨above, hp⟩

/-- The sibling of a path is looked up by its name alone. -/
theorem locate_sibling (hn : Path.IsName name) {spot : Spot}
    (h : t.locate (p.withFileName name) = .ok spot) : spot.target = .name name false := by
  obtain ⟨above, hp⟩ := exists_above p name
  rw [(locate_ok h).2, hp, Path.aim_of_last rfl hn.ne_empty (by simp), target,
    if_neg hn.ne_here, if_neg hn.ne_above]
  simp [hn.ne_empty]

theorem AgreeOff.enter_name {places : List Location} (ha : AgreeOff places t t') {dir : Location}
    {f : String} {rest : List String} (hf : Path.stays f = false) (hup : f ≠ "..")
    (hrest : ∀ s ∈ rest, Path.stays s = true) (hl : f :: dir ∉ places) :
    t'.enter dir (f :: rest) = t.enter dir (f :: rest) := by
  have hf' : ¬ Path.stays f = true := by simp [hf]
  simp only [enter_cons, if_neg hf', if_neg hup, ha.child? hl, enter_of_stays _ _ hrest]

theorem AgreeOff.enter_way (hn : Path.IsName name) (hf : p.fileName? ≠ some name) {dir : Location}
    (he : t.enter [] (p.withFileName name).way = .ok dir) (ha : AgreeOff [name :: dir] t t')
    (hd : t.get? (name :: dir) ≠ some .dir) : t'.enter [] p.way = t.enter [] p.way := by
  cases hp : p.fileName? with
  | none =>
    -- the sibling stands below the path, so the way to it begins with the way along the path
    obtain ⟨above, hs, hseg⟩ := Path.withFileName_of_none hp name
    rw [way_of_sibling hn hs] at he
    have hprefix : ∃ more, above = p.way ++ more := by
      rcases Path.blanks_or_last above with hb | ⟨before, last, blanks, hab, hl, hb⟩
      · have hw : p.way = [] := by
          apply Path.way_of_blanks
          intro s hs
          rcases hseg with hseg | hseg
          · exact hb s (hseg ▸ hs)
          · rw [hseg, List.mem_append, List.mem_singleton] at hs
            exact hs.elim (hb s) id
        exact ⟨above, by rw [hw]; rfl⟩
      · refine ⟨last :: blanks, ?_⟩
        rcases hseg with hseg | hseg
        · rw [Path.way_of_last (hseg.trans hab) hl hb, hab]
        · have hseg' : p.segments = before ++ last :: (blanks ++ [""]) := by
            rw [hseg, hab, List.append_assoc, List.cons_append]
          rw [Path.way_of_last hseg' hl (by simpa [or_imp, forall_and] using hb), hab]
    obtain ⟨more, hmore⟩ := hprefix
    rw [hmore, enter_append] at he
    cases hw : t.enter [] p.way with
    | error e =>
      rw [hw] at he
      cases he
    | ok d => exact ha.enter_ok hd hw
  | some f =>
    -- the sibling stands beside `f`, so both ways come to `dir` first and part there
    obtain ⟨above, between, below, hseg, hbetween, hbelow, hs⟩ :=
      Path.withFileName_of_some hp name
    rw [way_of_sibling hn hs] at he
    have he' : t.enter [] (above ++ between) = .ok dir := by
      rw [t.enter_append_of_stays [] hbetween, he]
    have he'' : t'.enter [] (above ++ between) = .ok dir := ha.enter_ok hd he'
    rcases Path.blanks_or_last below with hb | ⟨before, last, blanks, hbe, hl, hb⟩
    · rw [Path.way_of_last hseg (Path.ne_empty_of_fileName? hp) hb, he', he'']
    · have hseg' : p.segments = (above ++ between ++ f :: before) ++ last :: blanks := by
        simp only [hseg, hbe, List.append_assoc, List.cons_append]
      have hbefore : ∀ s ∈ before, Path.stays s = true := fun s hs =>
        hbelow s (by rw [hbe]; exact List.mem_append_left _ hs)
      have hfn : f :: dir ∉ [name :: dir] := by
        intro hm
        rw [List.mem_singleton, List.cons.injEq] at hm
        exact hf (hp.trans (congrArg some hm.1))
      rw [Path.way_of_last hseg' hl hb, enter_append, enter_append t, he', he'']
      exact ha.enter_name (Path.fileName?_eq_some hp).1 (Path.fileName?_eq_some hp).2 hbefore hfn

/-- What happens to the sibling of a path, as long as it is no directory, changes neither where the
path leads nor where the sibling does. -/
theorem AgreeOff.locate (hn : Path.IsName name) (hf : p.fileName? ≠ some name) {dir : Location}
    (hs : t.locate (p.withFileName name) = .ok ⟨dir, .name name false⟩)
    (ha : AgreeOff [name :: dir] t t') (hd : t.get? (name :: dir) ≠ some .dir) :
    t'.locate p = t.locate p ∧ t'.locate (p.withFileName name) = t.locate (p.withFileName name) := by
  have he := (locate_ok hs).1
  refine ⟨locate_congr ha.longestPath (ha.enter_way hn hf he hd), ?_⟩
  exact locate_congr ha.longestPath (by rw [he, ha.enter_ok hd he])

theorem ne_sibling (hf : p.fileName? ≠ some name) {dir dir' : Location} {f : String} {slash : Bool}
    (h : t.locate p = .ok ⟨dir', .name f slash⟩) : f :: dir' ≠ name :: dir := by
  intro he
  have hp : p.fileName? = some f := Path.fileName?_of_aim (locate_ok h).2.symm
  exact hf (hp.trans (congrArg some (List.cons.inj he).1))

end FileTree

end SensorLink
