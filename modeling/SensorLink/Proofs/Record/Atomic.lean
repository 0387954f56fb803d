import SensorLink.Proofs.Files.Directories
import SensorLink.Proofs.Record.Leftover

namespace SensorLink

namespace Record

open FileTree

/-- What a reader finds once a state is recorded: an empty one is none. -/
def content (state : Bytes) : Option Bytes := if state = [] then none else some state

theorem content_ne_nil (state : Bytes) : content state ≠ some [] := by
  by_cases h : state = [] <;> simp [content, h]

theorem readAt_eq_none_iff {t : FileTree} {p : Path} :
    readAt t p = .ok none ↔ t.read p = .error .notFound := by
  unfold readAt
  rcases t.read p with e | record
  · cases e <;> simp
  · dsimp only
    rcases decode record with fault | state <;> simp

theorem readAt_eq_some_iff {t : FileTree} {p : Path} {state : Bytes} :
    readAt t p = .ok (some state) ↔ ∃ record, t.read p = .ok record ∧ decode record = .ok state := by
  unfold readAt
  rcases t.read p with e | record
  · cases e <;> simp
  · dsimp only
    rcases hd : decode record with fault | state' <;> simp [hd]

def pieces : List Nat → Bytes → List Bytes
  | [], record => [record]
  | size :: sizes, record => record.take size :: pieces sizes (record.drop size)

theorem flatten_pieces (sizes : List Nat) (record : Bytes) : (pieces sizes record).flatten = record := by
  induction sizes generalizing record with
  | nil => simp [pieces]
  | cons size sizes ih => rw [pieces, List.flatten_cons, ih, List.take_append_drop]

/-- What is done to a draft once it is made: the record is written in pieces and synced. -/
def fillSteps (sizes : List Nat) (record : Bytes) : List Step :=
  (pieces sizes record).map .append ++ [.sync]

def Step.inPieces (sizes : List Nat) : Step → List Step
  | .append bytes => (pieces sizes bytes).map .append
  | step => [step]

/-- The steps of a replacement, where the medium takes the record in pieces. -/
def stepsInPieces (sizes : List Nat) (record : Bytes) : List Step :=
  (replaceSteps record).flatMap (Step.inPieces sizes)

theorem stepsInPieces_nil (record : Bytes) : stepsInPieces [] record = replaceSteps record := rfl

theorem stepsInPieces_eq (sizes : List Nat) (record : Bytes) :
    stepsInPieces sizes record = .create :: (fillSteps sizes record ++ [.rename]) := by
  simp [stepsInPieces, replaceSteps, Step.inPieces, fillSteps]

/-- What writing a state at a path may come to: the result, if the process lives to see one, and the
tree that is left. -/
inductive WriteEnds (t : FileTree) (p : Path) (state : Bytes) :
    Option (Except PersistenceError Unit) → FileTree → Prop where
  | through : WriteEnds t p state (some (writeAt t p state).1) (writeAt t p state).2
  /-- A step of a replacement fails, on the tree or on the medium, and the draft is removed or is
  not. -/
  | broken (record : Bytes) (sizes : List Nat) (done : Nat) (cause : IoError) (swept : Bool)
      (result : Except IoError Unit) (t' : FileTree) (hne : state ≠ [])
      (he : encode state = .ok record)
      (hr : Step.runAll p t ((stepsInPieces sizes record).take done) = (result, t'))
      (hb : done < (stepsInPieces sizes record).length ∨ result ≠ .ok ()) :
      WriteEnds t p state (some (.error (.io cause))) (if swept then discardDraft t' p else t')
  /-- The medium fails the removal of the record. -/
  | keptRecord (cause : IoError) (hs : state = []) (hc : cause ≠ .notFound) :
      WriteEnds t p state (some (.error (.io cause))) t
  | stoppedBefore : WriteEnds t p state none t
  /-- The process ends on the way. -/
  | stopped (record : Bytes) (sizes : List Nat) (done : Nat) (hne : state ≠ [])
      (he : encode state = .ok record) :
      WriteEnds t p state none (Step.runAll p t ((stepsInPieces sizes record).take done)).2
  /-- The process ends when all is done, before it reports. -/
  | stoppedAfter (result : Except PersistenceError Unit) (t' : FileTree)
      (h : WriteEnds t p state (some result) t') : WriteEnds t p state none t'

namespace Step

theorem runAll_append (p : Path) (t : FileTree) (steps more : List Step) :
    runAll p t (steps ++ more) =
      match runAll p t steps with
      | (.ok (), t) => runAll p t more
      | (.error e, t) => (.error e, t) := by
  induction steps generalizing t with
  | nil => rfl
  | cons step rest ih =>
    simp only [List.cons_append, runAll]
    cases step.run p t with
    | error e => rfl
    | ok t => exact ih t

/-- Steps that only fill a draft. -/
def Fills : Step → Prop
  | .append _ | .sync => True
  | .create | .rename => False

def written : List Step → Bytes
  | [] => []
  | .append bytes :: rest => bytes ++ written rest
  | _ :: rest => written rest

theorem written_append (steps more : List Step) :
    written (steps ++ more) = written steps ++ written more := by
  induction steps with
  | nil => rfl
  | cons step rest ih => cases step <;> simp [written, ih]

theorem written_map_append (chunks : List Bytes) :
    written (chunks.map .append) = chunks.flatten := by
  induction chunks with
  | nil => rfl
  | cons chunk rest ih => rw [List.map_cons, written, ih, List.flatten_cons]

theorem runAll_fills {t : FileTree} {p : Path} {dir : Location} (h : Drafting t p dir)
    {steps : List Step} (hs : ∀ step ∈ steps, step.Fills) (data : Bytes) :
    runAll p (t.put (draftName p :: dir) (.file data)) steps =
      (.ok (), t.put (draftName p :: dir) (.file (data ++ written steps))) := by
  induction steps generalizing data with
  | nil => simp [runAll, written]
  | cons step rest ih =>
    have hrest : ∀ step ∈ rest, step.Fills := fun s hm => hs s (List.mem_cons_of_mem _ hm)
    cases step with
    | append bytes =>
      simp only [runAll, run, h.append, ih hrest, written, List.append_assoc]
    | sync => simp only [runAll, run, ih hrest, written]
    | create => exact (hs .create (List.mem_cons_self ..)).elim
    | rename => exact (hs .rename (List.mem_cons_self ..)).elim

end Step

theorem fillSteps_fills (sizes : List Nat) (record : Bytes) :
    ∀ step ∈ fillSteps sizes record, step.Fills := by
  intro step hm
  rcases List.mem_append.1 hm with hm | hm
  · obtain ⟨chunk, -, rfl⟩ := List.mem_map.1 hm
    trivial
  · rw [List.mem_singleton.1 hm]
    trivial

theorem written_fillSteps (sizes : List Nat) (record : Bytes) :
    Step.written (fillSteps sizes record) = record := by
  rw [fillSteps, Step.written_append, Step.written_map_append, flatten_pieces]
  exact List.append_nil _

/-- In how many pieces a record is written makes no difference to a replacement that is not broken off. -/
theorem runAll_stepsInPieces (p : Path) (t : FileTree) (sizes : List Nat) (record : Bytes) :
    Step.runAll p t (stepsInPieces sizes record) = Step.runAll p t (replaceSteps record) := by
  rw [← stepsInPieces_nil, stepsInPieces_eq, stepsInPieces_eq]
  cases hc : t.create (draftPath p) with
  | error e => simp only [Step.runAll, Step.run, hc]
  | ok t₁ =>
    obtain ⟨dir, hd⟩ := Drafting.of_create hc
    obtain rfl := Except.ok.inj (hc.symm.trans hd.create)
    have hfill (sizes : List Nat) := Step.runAll_fills hd (fillSteps_fills sizes record) []
    simp only [Step.runAll, Step.run, hc, Step.runAll_append, hfill, written_fillSteps]

/-- Nothing has happened to the record yet: at most a draft has come or gone. -/
inductive Unreplaced (t : FileTree) (p : Path) : FileTree → Prop where
  | untouched : Unreplaced t p t
  | drafted {dir : Location} (h : Drafting t p dir) (data : Bytes) :
      Unreplaced t p (t.put (draftName p :: dir) (.file data))
  | discarded {dir : Location} (h : Drafting t p dir) :
      Unreplaced t p (t.erase (draftName p :: dir))

/-- The draft has been moved over the record. -/
inductive Replaced (t : FileTree) (p : Path) (record : Bytes) : FileTree → Prop where
  | moved {dir dir' : Location} {f : String} (h : Drafting t p dir)
      (hp : t.locate p = .ok ⟨dir', .name f false⟩)
      (hf : t.child? dir' f = .ok (t.get? (f :: dir'))) (hd : t.get? (f :: dir') ≠ some .dir) :
      Replaced t p record ((t.erase (draftName p :: dir)).put (f :: dir') (.file record))

/-- The places of a record and of its draft. -/
def places (t : FileTree) (p : Path) : List Location :=
  (t.place? p).toList ++ (t.place? (draftPath p)).toList

theorem Beside.mem_places {t : FileTree} {p : Path} {dir : Location} (h : Beside t p dir) :
    [draftName p :: dir] ⊆ places t p := by
  simp [places, h.place?]

namespace Unreplaced

variable {t t' : FileTree} {p : Path}

theorem readAt (h : Unreplaced t p t') : readAt t' p = readAt t p := by
  cases h with
  | untouched => rfl
  | drafted h data => exact h.readAt (t.agreeOff_put _ _)
  | discarded h => exact h.readAt (t.agreeOff_erase _)

theorem agreeOff (h : Unreplaced t p t') : AgreeOff (places t p) t t' := by
  cases h with
  | untouched => exact .refl _ _
  | drafted h data => exact (t.agreeOff_put _ _).mono h.mem_places
  | discarded h => exact (t.agreeOff_erase _).mono h.mem_places

theorem discard (h : Unreplaced t p t') : Unreplaced t p (discardDraft t' p) := by
  cases h with
  | untouched =>
    cases hu : t.unlink (draftPath p) with
    | error e =>
      rw [discardDraft, hu]
      exact .untouched
    | ok t₁ =>
      obtain ⟨dir, hd, rfl⟩ := Drafting.of_unlink hu
      rw [discardDraft, hu]
      exact .discarded hd
  | drafted h data =>
    rw [discardDraft, h.unlink]
    exact .discarded h
  | @discarded dir h =>
    have hl := (h.locate (t.agreeOff_erase (draftName p :: dir))).2.trans h.located
    have hg := t.get?_erase_self (List.cons_ne_nil (draftName p) dir)
    have hu : (t.erase (draftName p :: dir)).unlink (draftPath p) = .error .notFound := by
      simp only [FileTree.unlink, hl, FileTree.child?, if_neg h.fits, hg, bind, Except.bind]
      rfl
    rw [discardDraft, hu]
    exact .discarded h

theorem isDir (h : Unreplaced t p t') {q : Path} (hq : t.isDir q = true) : t'.isDir q = true := by
  cases h with
  | untouched => exact hq
  | drafted h data => exact (t.agreeOff_put _ _).isDir h.free hq
  | discarded h => exact (t.agreeOff_erase _).isDir h.free hq

end Unreplaced

namespace Replaced

variable {t t' : FileTree} {p : Path} {state record : Bytes}

theorem readAt (h : Replaced t p record t') (he : encode state = .ok record) :
    readAt t' p = .ok (some state) := by
  cases h with
  | moved h hp hf hd => exact h.readAt_replaced hp hf hd he

theorem agreeOff (h : Replaced t p record t') : AgreeOff (places t p) t t' := by
  cases h with
  | moved h hp hf hd =>
    refine ((t.agreeOff_erase _).mono h.mem_places).trans ((agreeOff_put _ _ _).mono ?_)
    simp [places, place?_of_locate hp]

theorem isDir (h : Replaced t p record t') {q : Path} (hq : t.isDir q = true) :
    t'.isDir q = true := by
  cases h with
  | @moved dir dir' f h hp hf hd =>
    have hne : f :: dir' ∉ [draftName p :: dir] := fun hm =>
      place?_ne_draft t p dir _ hm (place?_of_locate hp)
    have ha := t.agreeOff_erase (draftName p :: dir)
    exact (agreeOff_put _ _ _).isDir (by rwa [ha.get? _ hne]) (ha.isDir h.free hq)

theorem draft_gone (h : Replaced t p record t') : ∃ loc, t.place? (draftPath p) = some loc ∧
    t'.place? (draftPath p) = some loc ∧ t'.get? loc = none := by
  cases h with
  | @moved dir dir' f h hp hf hd =>
    have hne : f :: dir' ∉ [draftName p :: dir] := fun hm =>
      place?_ne_draft t p dir _ hm (place?_of_locate hp)
    have ha := t.agreeOff_erase (draftName p :: dir)
    have hgone : Beside (t.erase (draftName p :: dir)) p dir := h.set h.free (Option.some_ne_none _).symm
    have hdone : Beside ((t.erase (draftName p :: dir)).put (f :: dir') (.file record)) p dir :=
      hgone.set (by rwa [ha.get? _ hne]) (by simp)
    refine ⟨draftName p :: dir, h.place?, hdone.place?, ?_⟩
    rw [get?_put_ne _ _ fun e => hne (List.mem_singleton.2 e.symm),
      get?_erase_self _ (List.cons_ne_nil _ _)]

end Replaced

/-- However far the steps of a replacement get, the record is the old one until the last of them has
gone through. -/
theorem runAll_take_cases (t : FileTree) (p : Path) (sizes : List Nat) (record : Bytes) (done : Nat)
    {result : Except IoError Unit} {t' : FileTree}
    (hr : Step.runAll p t ((stepsInPieces sizes record).take done) = (result, t')) :
    (Unreplaced t p t' ∧ (result = .ok () → done < (stepsInPieces sizes record).length)) ∨
      (Replaced t p record t' ∧ result = .ok () ∧ (stepsInPieces sizes record).length ≤ done) := by
  have hlen : (stepsInPieces sizes record).length = (fillSteps sizes record).length + 2 := by
    simp [stepsInPieces_eq]
  cases done with
  | zero =>
    cases hr
    exact Or.inl ⟨.untouched, fun _ => by omega⟩
  | succ done =>
    rw [stepsInPieces_eq, List.take_succ_cons] at hr
    cases hc : t.create (draftPath p) with
    | error e =>
      simp only [Step.runAll, Step.run, hc] at hr
      cases hr
      exact Or.inl ⟨.untouched, fun h => by cases h⟩
    | ok t₁ =>
      obtain ⟨dir, hd⟩ := Drafting.of_create hc
      obtain rfl := Except.ok.inj (hc.symm.trans hd.create)
      simp only [Step.runAll, Step.run, hc] at hr
      by_cases hle : done ≤ (fillSteps sizes record).length
      · -- only the draft is being filled
        have hfill : ∀ step ∈ (fillSteps sizes record).take done, step.Fills := fun s hs =>
          fillSteps_fills sizes record s (List.mem_of_mem_take hs)
        rw [List.take_append_of_le_length hle, Step.runAll_fills hd hfill] at hr
        cases hr
        exact Or.inl ⟨.drafted hd _, fun _ => by omega⟩
      -- the draft is complete, and the move decides
      · have hall : (fillSteps sizes record ++ [Step.rename]).take done =
            fillSteps sizes record ++ [Step.rename] :=
          List.take_of_length_le (by simp; omega)
        rw [hall, Step.runAll_append, Step.runAll_fills hd (fillSteps_fills sizes record),
          written_fillSteps, List.nil_append] at hr
        simp only [Step.runAll, Step.run] at hr
        rw [hd.rename] at hr
        cases hl : t.landing p with
        | ok loc =>
          obtain ⟨dir', f, hp, hf, hdir, rfl⟩ := landing_ok hl
          rw [hl] at hr
          cases hr
          exact Or.inr ⟨.moved hd hp hf hdir, rfl, by omega⟩
        | error e =>
          rw [hl] at hr
          cases hr
          exact Or.inl ⟨.drafted hd _, fun h => by cases h⟩

/-- A state is recorded: it is what the path reads, and no draft of it is left. -/
structure Recorded (t : FileTree) (p : Path) (state : Bytes) (t' : FileTree) : Prop where
  readAt : readAt t' p = .ok (content state)
  draft_gone : state ≠ [] → ∃ loc, t.place? (draftPath p) = some loc ∧
    t'.place? (draftPath p) = some loc ∧ t'.get? loc = none
  agreeOff : AgreeOff (places t p) t t'
  isDir : ∀ q, t.isDir q = true → t'.isDir q = true

theorem Replaced.recorded {t t' : FileTree} {p : Path} {state record : Bytes}
    (h : Replaced t p record t') (hne : state ≠ []) (he : encode state = .ok record) :
    Recorded t p state t' where
  readAt := by rw [h.readAt he, content, if_neg hne]
  draft_gone _ := h.draft_gone
  agreeOff := h.agreeOff
  isDir _ := h.isDir

theorem readAt_of_notFound {t : FileTree} {p : Path} (h : t.fileAt p = .error .notFound) :
    readAt t p = .ok none := by
  rw [readAt_eq_none_iff, read_eq, h]
  rfl

theorem removeAt_cases (t : FileTree) (p : Path) :
    (∃ e, removeAt t p = (.error (.io e), t)) ∨
      (∃ t', removeAt t p = (.ok (), t') ∧ Recorded t p [] t') := by
  rw [removeAt_eq]
  cases hr : t.fileAt p with
  | error e =>
    by_cases he : e = .notFound
    · subst he
      exact Or.inr ⟨t, rfl, readAt_of_notFound hr, fun h => absurd rfl h, .refl _ _, fun _ => id⟩
    · exact Or.inl ⟨e, by simp⟩
  | ok found =>
    obtain ⟨loc, data⟩ := found
    obtain ⟨dir, f, hl, hfit, hget, rfl⟩ := fileAt_ok hr
    refine Or.inr ⟨_, rfl, readAt_of_notFound ?_, fun h => absurd rfl h, ?_, ?_⟩
    · have hl' := (t.agreeOff_erase (f :: dir)).locate_of_ok (by simp [hget]) hl
      have hc : (t.erase (f :: dir)).child? dir f = .ok none := by
        rw [FileTree.child?, if_neg hfit, get?_erase_self _ (List.cons_ne_nil _ _)]
      simp only [fileAt, hl', hc, bind, Except.bind]
      rfl
    · exact (t.agreeOff_erase _).mono (by simp [places, place?_of_locate hl])
    · exact fun q => (t.agreeOff_erase _).isDir (by simp [hget])

/-- A write fails and replaces nothing, or the state is recorded. -/
theorem writeAt_cases (t : FileTree) (p : Path) (state : Bytes) :
    (∃ e, (writeAt t p state).1 = .error e ∧ Unreplaced t p (writeAt t p state).2) ∨
      ((writeAt t p state).1 = .ok () ∧ Recorded t p state (writeAt t p state).2) := by
  by_cases hs : state = []
  · subst hs
    rw [writeAt, if_pos rfl]
    rcases removeAt_cases t p with ⟨e, he⟩ | ⟨t', he, hr⟩
    · rw [he]
      exact Or.inl ⟨_, rfl, .untouched⟩
    · rw [he]
      exact Or.inr ⟨rfl, hr⟩
  · rw [writeAt, if_neg hs]
    cases he : encode state with
    | error fault => exact Or.inl ⟨_, rfl, .untouched⟩
    | ok record =>
      cases hr : Step.runAll p t (replaceSteps record) with
      | mk result t' =>
        -- a write is the case of one piece in which no step is left out
        have hall : Step.runAll p t ((stepsInPieces [] record).take
            (stepsInPieces [] record).length) = (result, t') := by
          rw [List.take_length, stepsInPieces_nil, hr]
        rcases runAll_take_cases t p [] record _ hall with ⟨hu, hlt⟩ | ⟨hm, hok, -⟩
        · cases result with
          | error e => exact Or.inl ⟨.io e, by simp only [hr], by simpa only [hr] using hu.discard⟩
          | ok u => exact absurd (hlt rfl) (Nat.lt_irrefl _)
        · subst hok
          exact Or.inr ⟨by simp only [hr], by simpa only [hr] using hm.recorded hs he⟩

/-- However a write ends, it has replaced nothing or recorded the state; only the latter is
reported as a success. -/
theorem WriteEnds.cases {t t' : FileTree} {p : Path} {state : Bytes}
    {result : Option (Except PersistenceError Unit)} (h : WriteEnds t p state result t') :
    (Unreplaced t p t' ∧ result ≠ some (.ok ())) ∨
      (Recorded t p state t' ∧ ∀ e, result ≠ some (.error e)) := by
  induction h with
  | through =>
    rcases writeAt_cases t p state with ⟨e, he, hu⟩ | ⟨hok, hr⟩
    · exact Or.inl ⟨hu, by simp [he]⟩
    · exact Or.inr ⟨hr, by simp [hok]⟩
  | broken record sizes done cause swept result t' hne he hr hb =>
    left
    refine ⟨?_, by simp⟩
    -- a step was left out or failed, so the move has not gone through
    rcases runAll_take_cases t p sizes record done hr with ⟨hu, -⟩ | ⟨-, hok, hle⟩
    · cases swept with
      | false => exact hu
      | true => exact hu.discard
    · rcases hb with hlt | hbad
      · omega
      · exact absurd hok hbad
  | keptRecord cause hs hc => exact Or.inl ⟨.untouched, by simp⟩
  | stoppedBefore => exact Or.inl ⟨.untouched, by simp⟩
  | stopped record sizes done hne he =>
    rcases runAll_take_cases t p sizes record done (Prod.eta _) with ⟨hu, -⟩ | ⟨hm, -, -⟩
    · exact Or.inl ⟨hu, by simp⟩
    · exact Or.inr ⟨hm.recorded hne he, by simp⟩
  | stoppedAfter result t' h ih =>
    rcases ih with ⟨hu, -⟩ | ⟨hr, -⟩
    · exact Or.inl ⟨hu, by simp⟩
    · exact Or.inr ⟨hr, by simp⟩

theorem WriteEnds.isDir {t t' : FileTree} {p q : Path} {state : Bytes}
    {result : Option (Except PersistenceError Unit)} (h : WriteEnds t p state result t')
    (hq : t.isDir q = true) : t'.isDir q = true := by
  rcases h.cases with ⟨hu, -⟩ | ⟨hr, -⟩
  · exact hu.isDir hq
  · exact hr.isDir q hq

theorem writeAt_isDir {t : FileTree} {q : Path} (h : t.isDir q = true) (p : Path) (state : Bytes) :
    (writeAt t p state).2.isDir q = true := by
  have hends : WriteEnds t p state (some (writeAt t p state).1) (writeAt t p state).2 := .through
  exact hends.isDir h

/-- A write is atomic. Wherever it ends, the path reads what it read before or the new state: the
former whenever the write reports an error, the latter whenever it reports success, and then no
draft is left. Only the record and its draft are touched, and a leftover draft changes nothing. -/
theorem writeAt_atomic (t : FileTree) (p : Path) (state : Bytes) :
    (∀ result t', WriteEnds t p state result t' →
      (readAt t' p = readAt t p ∨ readAt t' p = .ok (content state)) ∧
      (∀ e, result = some (.error e) → readAt t' p = readAt t p) ∧
      (result = some (.ok ()) → readAt t' p = .ok (content state) ∧
        (state ≠ [] → ∃ loc, t.place? (draftPath p) = some loc ∧
          t'.place? (draftPath p) = some loc ∧ t'.get? loc = none)) ∧
      AgreeOff (places t p) t t') ∧
    (∀ loc junk, t.place? (draftPath p) = some loc → t.get? loc = some (.file junk) →
      readAt (t.erase loc) p = readAt t p ∧
        ∀ states, writes p (t.erase loc) states = writes p t states) := by
  refine ⟨fun result t' h => ?_, fun loc junk hp hf => reads_writes_of_leftover hp hf⟩
  rcases h.cases with ⟨hu, hres⟩ | ⟨hr, hres⟩
  · exact ⟨Or.inl hu.readAt, fun _ _ => hu.readAt, fun hok => absurd hok hres, hu.agreeOff⟩
  · exact ⟨Or.inr hr.readAt, fun e he => absurd he (hres e), fun _ => ⟨hr.readAt, hr.draft_gone⟩,
      hr.agreeOff⟩

/-- A record of `[7]`, and beside it a draft that was never finished. -/
def interrupted : FileTree :=
  (FileTree.put {} ["state"] (.file [1, 0, 0, 0, 7])).put ["state.tmp"] (.file [1, 0])

/-- A process that stops half-way through writing `[9]` leaves `[7]` to be read, and the draft that
is in the way of neither. -/
theorem writeAt_atomic_interrupted :
    (readAt (Step.runAll ⟨["state"]⟩ interrupted ((stepsInPieces [3] [1, 0, 0, 0, 9]).take 2)).2
        ⟨["state"]⟩ = readAt interrupted ⟨["state"]⟩ ∨
      readAt (Step.runAll ⟨["state"]⟩ interrupted ((stepsInPieces [3] [1, 0, 0, 0, 9]).take 2)).2
        ⟨["state"]⟩ = .ok (content [9])) ∧
    readAt (interrupted.erase ["state.tmp"]) ⟨["state"]⟩ = readAt interrupted ⟨["state"]⟩ := by
  have h := writeAt_atomic interrupted ⟨["state"]⟩ [9]
  refine ⟨(h.1 none _ (.stopped [1, 0, 0, 0, 9] [3] 2 (by decide) rfl)).1, ?_⟩
  exact (h.2 ["state.tmp"] [1, 0] (by decide +kernel) (by decide +kernel)).1

end Record

end SensorLink
