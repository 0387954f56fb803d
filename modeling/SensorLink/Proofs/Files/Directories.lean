import SensorLink.Proofs.Files.Place

namespace SensorLink

namespace Path

theorem parent?_cases {p above : Path} (h : p.parent? = some above) : above = ⟨[""]⟩ ∨
    ∃ before between last below, p.segments = before ++ between ++ last :: below ∧
      before ≠ [] ∧ last ≠ "" ∧ (∀ s ∈ between, stays s = true) ∧
      (above = ⟨["", ""]⟩ ∨ above = ⟨before⟩ ∧ above.isEmpty = false) := by
  obtain ⟨segments⟩ := p
  cases segments with
  | nil => cases h
  | cons first rest =>
    obtain ⟨below, hrest, -⟩ := trimEnd_append rest
    rcases List.eq_nil_or_concat (trimEnd rest) with ht | ⟨names, last, ht⟩
    · left
      simp only [parent?, ht] at h
      split at h
      · cases h
      · exact (Option.some.inj h).symm
    -- what is taken off is the last component with the segments that stay before and behind it
    · right
      rw [List.concat_eq_append] at ht
      obtain ⟨between, hnames, hbetween⟩ := trimEnd_append names
      have hlast : last ≠ "" := by
        rintro rfl
        exact absurd (stays_of_getLast?_trimEnd (ht ▸ List.getLast?_concat)) (by decide)
      refine ⟨first :: trimEnd names, between, last, below, ?_, by simp, hlast, hbetween, ?_⟩
      · simp only [List.cons_append, List.cons.injEq, true_and]
        rw [← hnames, hrest, ht]
        simp
      · rw [parent?_of_trimEnd first ht] at h
        split at h
        · exact Or.inl (Option.some.inj h).symm
        · rename_i hroot
          cases h
          refine Or.inr ⟨rfl, ?_⟩
          cases hn : trimEnd names with
          | nil => simpa [isEmpty, hn] using hroot
          | cons n ns => simp [isEmpty]

def height (p : Path) : Nat := if p.parent? = none then 0 else p.segments.length

theorem height_le (p : Path) : p.height ≤ p.segments.length := by
  unfold height
  split <;> omega

theorem height_lt_of_parent {p above : Path} (h : p.parent? = some above) :
    above.height < p.height := by
  have hp : p.height = p.segments.length := if_neg (by simp [h])
  rcases parent?_cases h with rfl | ⟨before, between, last, below, hs, hne, -, -, ha⟩
  · rw [hp]
    have h0 : height ⟨[""]⟩ = 0 := rfl
    cases hseg : p.segments with
    | nil =>
      obtain ⟨segments⟩ := p
      cases hseg
      cases h
    | cons first rest => simp [h0]
  · rw [hp, hs]
    rcases ha with rfl | ⟨rfl, -⟩
    · have h0 : height ⟨["", ""]⟩ = 0 := rfl
      rw [h0, List.length_append, List.length_cons]
      omega
    · have hle := height_le ⟨before⟩
      simp only [List.length_append, List.length_cons]
      simp only at hle
      omega

theorem foldr_add (sizes : List Nat) (m n : Nat) :
    sizes.foldr (· + ·) (m + n) = sizes.foldr (· + ·) m + n := by
  induction sizes with
  | nil => rfl
  | cons size rest ih => rw [List.foldr_cons, List.foldr_cons, ih, Nat.add_assoc]

theorem le_foldr_add (sizes : List Nat) (n : Nat) : n ≤ sizes.foldr (· + ·) n := by
  have h := foldr_add sizes 0 n
  rw [Nat.zero_add] at h
  omega

theorem byteCount_le {p above : Path} {more : List String} (h : p.segments = above.segments ++ more) :
    above.byteCount ≤ p.byteCount := by
  -- the fold starts from the separators, so those that only the longer path has come out of it
  have hlen : p.segments.length - 1 = above.segments.length - 1 +
      (p.segments.length - 1 - (above.segments.length - 1)) := by
    rw [h, List.length_append]
    omega
  rw [byteCount, byteCount, hlen, foldr_add, h, List.map_append, List.foldr_append]
  have hmore := le_foldr_add (more.map String.utf8ByteSize) (above.segments.length - 1)
  obtain ⟨extra, hextra⟩ := Nat.le.dest hmore
  rw [← hextra, foldr_add]
  omega

theorem length_le_byteCount (p : Path) : p.segments.length ≤ p.byteCount + 1 := by
  have h := le_foldr_add (p.segments.map String.utf8ByteSize) (p.segments.length - 1)
  rw [byteCount]
  omega

theorem hasZero_of_append {p above : Path} {more : List String}
    (h : p.segments = above.segments ++ more) (hz : p.hasZero = false) : above.hasZero = false := by
  simp only [hasZero, h, List.any_append, Bool.or_eq_false_iff] at hz
  exact hz.1

end Path

namespace FileTree

variable {t t' : FileTree} {p above : Path}

theorem fit_of_locate {spot : Spot} (h : t.locate p = .ok spot) :
    p.hasZero = false ∧ ¬ t.longestPath < p.byteCount := by
  unfold locate at h
  split at h
  · cases h
  · rename_i hz
    split at h
    · cases h
    · split at h
      · cases h
      · rename_i hlen
        exact ⟨by simpa using hz, hlen⟩

theorem isDir_of_enter {d : Location} (hz : p.hasZero = false) (he : p.isEmpty = false)
    (hlen : ¬ t.longestPath < p.byteCount) (h : t.enter [] p.segments = .ok d) :
    t.isDir p = true := by
  have hloc := locate_of_fit hz he hlen
  rcases Path.blanks_or_last p.segments with hb | ⟨before, last, blanks, hs, hl, hb⟩
  · rw [isDir, hloc, Path.way_of_blanks hb, Path.aim_of_blanks hb]
    rfl
  · rw [hs, enter_append] at h
    cases hbefore : t.enter [] before with
    | error e =>
      rw [hbefore] at h
      cases h
    | ok dir =>
      rw [hbefore] at h
      simp only [Except.bind, enter_cons] at h
      -- the last segment can be entered too: a directory stands there
      rw [isDir, hloc, Path.way_of_last hs hl hb, Path.aim_of_last hs hl hb]
      simp only [hbefore, Except.map, target]
      by_cases hdot : last = "."
      · simp [hdot]
      · by_cases hup : last = ".."
        · simp [hup]
        · have hstays : ¬ Path.stays last = true := by simp [Path.stays, hl, hdot]
          rw [if_neg hstays, if_neg hup] at h
          simp only [if_neg hdot, if_neg hup]
          split at h
          · cases h
          · cases h
          · cases h
          · rename_i hc
            rw [hc]

theorem enter_before {before between below : List String} {last : String} {d : Location}
    (hs : p.segments = before ++ between ++ last :: below) (hl : last ≠ "")
    (hb : ∀ s ∈ between, Path.stays s = true) (h : t.enter [] p.way = .ok d) :
    ∃ d', t.enter [] before = .ok d' := by
  have hway : ∃ more, p.way = before ++ between ++ more := by
    rcases Path.blanks_or_last below with hblank | ⟨inner, last', blanks, hbe, hl', hblank⟩
    · exact ⟨[], by rw [Path.way_of_last hs hl hblank, List.append_nil]⟩
    · have hs' : p.segments = (before ++ between ++ last :: inner) ++ last' :: blanks := by
        simp only [hs, hbe, List.append_assoc, List.cons_append]
      exact ⟨last :: inner, Path.way_of_last hs' hl' hblank⟩
  obtain ⟨more, hmore⟩ := hway
  rw [hmore, enter_append, enter_append_of_stays t [] hb] at h
  cases he : t.enter [] before with
  | error e =>
    rw [he] at h
    cases h
  | ok d' => exact ⟨d', rfl⟩

theorem isDir_parent {spot : Spot} (h : t.locate p = .ok spot) (hp : p.parent? = some above) :
    above.isEmpty = true ∨ t.isDir above = true := by
  obtain ⟨hz, hlen⟩ := fit_of_locate h
  rcases Path.parent?_cases hp with rfl | ⟨before, between, last, below, hs, hne, hl, hb, ha⟩
  · exact Or.inl rfl
  · right
    rcases ha with rfl | ⟨rfl, he⟩
    -- the root's own path takes one byte, no more than any path with something above it
    · refine isDir_of_enter (d := []) (by decide) (by decide) ?_ rfl
      have h1 : (⟨["", ""]⟩ : Path).byteCount = 1 := rfl
      have hpos : 0 < before.length := List.length_pos_iff.2 hne
      have hle := p.length_le_byteCount
      rw [hs, List.length_append, List.length_append, List.length_cons] at hle
      omega
    · have hlong : p.segments = before ++ (between ++ last :: below) := by
        rw [hs, List.append_assoc]
      obtain ⟨d, hd⟩ := enter_before hs hl hb (locate_ok h).1
      refine isDir_of_enter (Path.hasZero_of_append hlong hz) he ?_ hd
      exact fun hlt => hlen (Nat.lt_of_lt_of_le hlt (Path.byteCount_le hlong))

theorem locate_of_isDir (h : t.isDir p = true) : ∃ spot, t.locate p = .ok spot := by
  cases hl : t.locate p with
  | error e => simp [isDir, hl] at h
  | ok spot => exact ⟨spot, rfl⟩

/-- A change where no directory stands leaves directories to be found. -/
theorem AgreeOff.isDir {place : Location} (ha : AgreeOff [place] t t')
    (hd : t.get? place ≠ some .dir) (h : t.isDir p = true) : t'.isDir p = true := by
  obtain ⟨spot, hl⟩ := locate_of_isDir h
  have hl' := ha.locate_of_ok hd hl
  rw [FileTree.isDir, hl] at h
  rw [FileTree.isDir, hl']
  obtain ⟨dir, target⟩ := spot
  cases target with
  | name f slash =>
    cases hc : t.child? dir f with
    | error e => simp [hc] at h
    | ok old =>
      have hold : old = some .dir := by
        cases old with
        | none => simp [hc] at h
        | some e => cases e <;> simp [hc] at h ⊢
      have hne : f :: dir ∉ [place] := by
        intro hm
        rw [List.mem_singleton] at hm
        exact hd (hm ▸ (child?_eq_ok hc).trans hold)
      simp [ha.child? hne, hc, hold]
  | here | above | root => rfl

theorem mkdir_of_isDir (h : t.isDir p = true) : t.mkdir p = .error .alreadyExists := by
  unfold isDir at h
  split at h
  · cases h
  · rename_i dir name slash hl
    split at h
    · rename_i hc
      simp [mkdir, hl, hc, bind, Except.bind]
    · cases h
  · rename_i spot hn hl
    obtain ⟨dir, target⟩ := spot
    cases target with
    | name f slash => exact absurd rfl (hn dir f slash)
    | here | above | root => simp [mkdir, hl, bind, Except.bind]

theorem mkdir_ok (h : t.mkdir p = .ok t') : ∃ dir f slash,
    t.locate p = .ok ⟨dir, .name f slash⟩ ∧ ¬ maxName < f.utf8ByteSize ∧
      t.get? (f :: dir) = none ∧ t' = t.put (f :: dir) .dir := by
  cases hl : t.locate p with
  | error e => simp [mkdir, hl, bind, Except.bind] at h
  | ok spot =>
    obtain ⟨dir, target⟩ := spot
    cases target with
    | name f slash =>
      cases hc : t.child? dir f with
      | error e => simp [mkdir, hl, hc, bind, Except.bind] at h
      | ok old =>
        have hfit : ¬ maxName < f.utf8ByteSize := by
          intro hn
          simp [child?, hn] at hc
        cases old with
        | some e => simp [mkdir, hl, hc, bind, Except.bind] at h
        | none =>
          have ht : t' = t.put (f :: dir) .dir := by
            simpa [mkdir, hl, hc, bind, Except.bind, pure, Except.pure, eq_comm] using h
          exact ⟨dir, f, slash, rfl, hfit, child?_eq_ok hc, ht⟩
    | here | above | root => simp [mkdir, hl, bind, Except.bind] at h

theorem isDir_of_mkdir (h : t.mkdir p = .ok t') : t'.isDir p = true := by
  obtain ⟨dir, f, slash, hl, hfit, hfree, rfl⟩ := mkdir_ok h
  have hl' := (t.agreeOff_put (f :: dir) .dir).locate_of_ok (by simp [hfree]) hl
  have hc : (t.put (f :: dir) .dir).child? dir f = .ok (some .dir) := by
    rw [child?, if_neg hfit, get?_put_self _ _ (List.cons_ne_nil _ _)]
  rw [isDir, hl']
  simp [hc]

/-- There is nothing to make at the path. -/
def Made (t : FileTree) (p : Path) : Prop := p.isEmpty = true ∨ t.isDir p = true

theorem mkdirsUpTo_of_made (depth : Nat) (h : t.Made p) :
    mkdirsUpTo (depth + 1) t p = (.ok (), t) := by
  rw [mkdirsUpTo]
  rcases h with he | hd
  · rw [if_pos he]
  · split
    · rfl
    · simp [mkdir_of_isDir hd]

theorem made_parent {spot : Spot} (h : t.locate p = .ok spot) (hp : p.parent? = some above) :
    t.Made above := isDir_parent h hp

theorem made_of_mkdirsUpTo {depth : Nat} (h : mkdirsUpTo depth t p = (.ok (), t')) : t'.Made p := by
  cases depth with
  | zero => cases h
  | succ depth =>
    rw [mkdirsUpTo] at h
    by_cases he : p.isEmpty = true
    · exact Or.inl he
    · right
      rw [if_neg he] at h
      -- made at once, made below its parent, or found to be a directory already
      split at h
      · rename_i hm
        cases h
        exact isDir_of_mkdir hm
      · split at h
        · cases h
        · split at h
          · rename_i hm
            cases h
            exact isDir_of_mkdir hm
          · simp only [Prod.mk.injEq] at h
            obtain ⟨hres, rfl⟩ := h
            split at hres
            · assumption
            · cases hres
      · simp only [Prod.mk.injEq] at h
        obtain ⟨hres, rfl⟩ := h
        split at hres
        · assumption
        · cases hres

/-- A path cannot be made because what is above it cannot, or although all above it is made. -/
theorem mkdirsUpTo_error {depth : Nat} {e : IoError}
    (h : mkdirsUpTo (depth + 1) t p = (.error e, t')) : p.isEmpty = false ∧
      ((∃ above, p.parent? = some above ∧ mkdirsUpTo depth t above = (.error e, t')) ∨
        (∃ cause, t'.mkdir p = .error cause ∧ t'.isDir p = false ∧
          (cause = .notFound → ∀ above, p.parent? = some above →
            mkdirsUpTo depth t above = (.ok (), t')))) := by
  rw [mkdirsUpTo] at h
  by_cases he : p.isEmpty = true
  · rw [if_pos he] at h
    cases h
  · refine ⟨by simpa using he, ?_⟩
    rw [if_neg he] at h
    -- only a missing parent sends the call upwards; every other failure is the path's own
    split at h
    · cases h
    · rename_i above hm hp
      split at h
      · rename_i e' t₁ habove
        cases h
        exact Or.inl ⟨above, hp, habove⟩
      · rename_i t₁ habove
        split at h
        · cases h
        · rename_i cause hm'
          simp only [Prod.mk.injEq] at h
          obtain ⟨hres, rfl⟩ := h
          refine Or.inr ⟨cause, hm', ?_, fun _ above' hp' => ?_⟩
          · split at hres
            · cases hres
            · simpa using ‹¬ t₁.isDir p = true›
          · rw [hp] at hp'
            cases hp'
            exact habove
    · rename_i cause hm hnot
      simp only [Prod.mk.injEq] at h
      obtain ⟨hres, rfl⟩ := h
      refine Or.inr ⟨cause, hm, ?_, fun hc above hp => (hnot above hp hc).elim⟩
      split at hres
      · cases hres
      · simpa using ‹¬ t.isDir p = true›

/-- What has been made stays made, and what could not be made cannot be made in what is left. -/
theorem mkdirsUpTo_settled {depth : Nat} (hdepth : p.height < depth)
    {result : Except IoError Unit} (h : mkdirsUpTo depth t p = (result, t')) :
    (mkdirsUpTo depth t' p).2 = t' ∧ (result = .ok () ∨ ¬ t'.Made p) := by
  induction depth generalizing t t' p result with
  | zero => omega
  | succ depth ih =>
    cases result with
    | ok u => exact ⟨by rw [mkdirsUpTo_of_made depth (made_of_mkdirsUpTo h)], Or.inl rfl⟩
    | error e =>
      obtain ⟨hempty, ⟨above, hp, habove⟩ | ⟨cause, hm, hdir, hmade⟩⟩ := mkdirsUpTo_error h
      -- what is above could not be made, so the path cannot even be looked up
      · have hlt := Path.height_lt_of_parent hp
        obtain ⟨hsame, hnot⟩ := ih (by omega) habove
        have hunmade : ¬ t'.Made above := hnot.resolve_left (by simp)
        refine ⟨?_, Or.inr ?_⟩
        · rw [mkdirsUpTo, if_neg (by simp [hempty])]
          cases hm : t'.mkdir p with
          | ok t₁ =>
            obtain ⟨dir, f, slash, hl, -⟩ := mkdir_ok hm
            exact absurd (made_parent hl hp) hunmade
          | error cause =>
            by_cases hc : cause = .notFound
            · subst hc
              simp only [hp]
              rcases hr : mkdirsUpTo depth t' above with ⟨e' | u, t₁⟩ <;> rw [hr] at hsame
              · exact hsame
              · obtain rfl : t₁ = t' := hsame
                exact absurd (made_of_mkdirsUpTo hr) hunmade
            · simp [hc]
        · rintro (he | hd)
          · rw [hempty] at he
            cases he
          · obtain ⟨spot, hl⟩ := locate_of_isDir hd
            exact hunmade (made_parent hl hp)
      -- all above is made already, so the path fails again as it did
      · refine ⟨?_, Or.inr (by simp [Made, hempty, hdir])⟩
        rw [mkdirsUpTo, if_neg (by simp [hempty]), hm]
        by_cases hc : cause = .notFound
        · subst hc
          cases hp : p.parent? with
          | none => simp
          | some above =>
            have habove := hmade rfl above hp
            cases depth with
            | zero => cases habove
            | succ depth => simp [mkdirsUpTo_of_made depth (made_of_mkdirsUpTo habove), hm]
        · simp [hc]

/-- To make directories again changes nothing, whether they could be made or not. -/
theorem mkdirs_mkdirs (t : FileTree) (p : Path) : ((t.mkdirs p).2.mkdirs p).2 = (t.mkdirs p).2 := by
  have hdepth : p.height < p.segments.length + 1 := Nat.lt_succ_of_le p.height_le
  exact (mkdirsUpTo_settled hdepth (Prod.eta (t.mkdirs p)).symm).1

theorem mkdirs_of_made (h : t.Made p) : t.mkdirs p = (.ok (), t) := mkdirsUpTo_of_made _ h

theorem made_of_mkdirs (h : t.mkdirs p = (.ok (), t')) : t'.Made p := made_of_mkdirsUpTo h

end FileTree

end SensorLink
