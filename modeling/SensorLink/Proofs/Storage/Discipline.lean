import SensorLink.Proofs.Storage.Acts

namespace SensorLink

namespace Act

def success? : Act → Option DriverCall
  | .drive call => if call.answer.isOk then some call else none
  | _ => none

/-- What may be done on a library's partition, mounted or not. -/
def Allowed (base : Path) (label : String) (mounted : Bool) : Act → Prop
  | .drive call => call.base = base ∧ call.label = label ∧ call.mounting = !mounted
  | .look .. => False
  | .read .. | .write .. | .update .. => mounted = true

/-- A read or a change of the state record, or a call of the recorder. -/
def OnState : Act → Prop
  | .drive _ | .look .. => False
  | .read .. | .write .. | .update .. => True

theorem OnState.allowed {act : Act} {base : Path} {label : String} (h : act.OnState) :
    act.Allowed base label true ∧ act.success? = none := by
  cases act with
  | drive _ | look => cases h
  | read | write | update => exact ⟨rfl, rfl⟩

end Act

def successes (acts : List Act) : List DriverCall := acts.filterMap Act.success?

/-- Whether the last successful call of the driver was a mount. -/
def mountedBy (acts : List Act) : Bool := (successes acts).getLast?.any (·.mounting)

/-- The acts keep to the discipline and leave the partition mounted or not. -/
structure Disciplined (base : Path) (label : String) (acts : List Act) (mounted : Bool) : Prop where
  flag : mounted = mountedBy acts
  orderly : ∀ before act after, acts = before ++ act :: after →
    act.Allowed base label (mountedBy before)
  alternating : ∀ i call, (successes acts)[i]? = some call → call.mounting = (i % 2 == 0)
  balance : (successes acts).countP (·.mounting) =
    (successes acts).countP (!·.mounting) + mounted.toNat

theorem successes_append (acts more : List Act) :
    successes (acts ++ more) = successes acts ++ successes more := List.filterMap_append

theorem orderly_snoc {P : List Act → Act → Prop} {acts : List Act} {act : Act}
    (h : ∀ before a after, acts = before ++ a :: after → P before a) (ha : P acts act) :
    ∀ before a after, acts ++ [act] = before ++ a :: after → P before a := by
  intro before a after he
  rcases after.eq_nil_or_concat with rfl | ⟨rest, last, rfl⟩
  · obtain ⟨rfl, hlast⟩ := List.append_inj' he rfl
    cases hlast
    exact ha
  · rw [List.concat_eq_append, ← List.cons_append, ← List.append_assoc] at he
    exact h before a rest (List.append_inj' he rfl).1

namespace Disciplined

variable {base : Path} {label : String} {acts : List Act} {mounted : Bool}

theorem nil : Disciplined base label [] false where
  flag := rfl
  orderly before act after h := by simp at h
  alternating i call h := by simp [successes] at h
  balance := rfl

theorem length_mod (h : Disciplined base label acts mounted) :
    (successes acts).length % 2 = mounted.toNat := by
  have hl := (successes acts).length_eq_countP_add_countP (·.mounting)
  have hb := h.balance
  have ht : mounted.toNat < 2 := by cases mounted <;> decide
  simp only [Bool.not_eq_true, Bool.decide_eq_false] at hl
  omega

theorem pass (h : Disciplined base label acts mounted) {act : Act}
    (ha : act.Allowed base label mounted) (hs : act.success? = none) :
    Disciplined base label (acts ++ [act]) mounted := by
  have hall : successes (acts ++ [act]) = successes acts := by
    rw [successes_append, successes, successes, List.filterMap_cons_none hs, List.filterMap_nil,
      List.append_nil]
  refine ⟨?_, orderly_snoc h.orderly (h.flag ▸ ha), ?_, ?_⟩
  · rw [mountedBy, hall]
    exact h.flag
  · rw [hall]
    exact h.alternating
  · rw [hall]
    exact h.balance

theorem passes (h : Disciplined base label acts mounted) {more : List Act}
    (hm : ∀ act ∈ more, act.Allowed base label mounted ∧ act.success? = none) :
    Disciplined base label (acts ++ more) mounted := by
  induction more generalizing acts with
  | nil => exact (List.append_nil acts).symm ▸ h
  | cons act rest ih =>
    obtain ⟨⟨ha, hs⟩, hrest⟩ := List.forall_mem_cons.1 hm
    rw [List.append_cons]
    exact ih (h.pass ha hs) hrest

theorem success (h : Disciplined base label acts (!mounted)) (u : Unit) :
    Disciplined base label (acts ++ [.drive ⟨mounted, base, label, .ok u⟩]) mounted := by
  have hall : successes (acts ++ [.drive ⟨mounted, base, label, .ok u⟩]) =
      successes acts ++ [⟨mounted, base, label, .ok u⟩] := successes_append _ _
  have ha : Act.Allowed base label (mountedBy acts) (.drive ⟨mounted, base, label, .ok u⟩) := by
    rw [← h.flag]
    exact ⟨rfl, rfl, mounted.not_not.symm⟩
  refine ⟨?_, orderly_snoc h.orderly ha, fun i call hc => ?_, ?_⟩
  · rw [mountedBy, hall, List.getLast?_concat]
    rfl
  · rw [hall, List.getElem?_append] at hc
    split at hc
    · exact h.alternating i call hc
    · -- the last of them comes after as many as the flag's value is odd or even
      have hm := h.length_mod
      rename_i hi
      obtain ⟨hlast, rfl⟩ := List.getElem?_eq_some_iff.1 hc
      obtain rfl : i = (successes acts).length := by simp at hlast; omega
      simp only [Nat.sub_self, List.getElem_cons_zero, hm]
      cases mounted <;> rfl
  · rw [hall, List.countP_append, List.countP_append, h.balance]
    cases mounted <;> simp

theorem drive {on : Bool} (h : Disciplined base label acts (!on)) (answer : Except IoError Unit) :
    Disciplined base label (acts ++ [.drive ⟨on, base, label, answer⟩])
      (if answer.isOk then on else !on) := by
  cases answer with
  | ok u => exact h.success u
  | error e => exact h.pass ⟨rfl, rfl, on.not_not.symm⟩ rfl

end Disciplined

namespace MountPoint

variable {β : Type} [MountBackend β]

/-- The mount point after a number of turns, each on the tree as it is by then. -/
def turnAll (m : MountPoint β) : List (Bool × FileTree) → MountPoint β
  | [] => m
  | (on, t) :: rest => (m.turn on t).2.1.turnAll rest

def turnActsAll (m : MountPoint β) : List (Bool × FileTree) → List Act
  | [] => []
  | (on, t) :: rest => m.turnActs on t ++ (m.turn on t).2.1.turnActsAll rest

/-- A turn that is already made does nothing; any other one calls the driver, also where it has
failed before, and the flag turns if the driver succeeds. -/
structure Turns (m : MountPoint β) (base : Path) (label : String) (on : Bool) (t : FileTree) :
    Prop where
  idle : m.mounted = on → m.turnActs on t = [] ∧ m.turn on t = (.ok (), m, t)
  driven : m.mounted = !on → ∃ answer, m.turnActs on t = [.drive ⟨on, base, label, answer⟩] ∧
    (m.turn on t).1 = answer.mapError (.backend base) ∧
    (m.turn on t).2.1.mounted = if answer.isOk then on else m.mounted
  leads : ∀ {υ : Type} [StateRecorder υ] (r : Option υ), Leads ⟨m.driver?, r, t⟩ (m.turnActs on t)
    ⟨(m.turn on t).2.1.driver?, r, (m.turn on t).2.2⟩

variable {m : MountPoint β} {base : Path} {label : String}

omit [MountBackend β] in
theorem eq_of_partition? (h : m.partition? = some (base, label)) :
    ∃ b mounted, m = ⟨base, .library b label, mounted⟩ := by
  obtain ⟨base', owner, mounted⟩ := m
  cases owner with
  | library b label' =>
    cases h
    exact ⟨b, mounted, rfl⟩
  | application => cases h

theorem turns (h : m.partition? = some (base, label)) (on : Bool) (t : FileTree) :
    Turns m base label on t := by
  obtain ⟨b, mounted, rfl⟩ := eq_of_partition? h
  by_cases hm : mounted = on
  · subst hm
    refine ⟨fun _ => ⟨turnActs_same .., turn_same ..⟩,
      fun hm => ((Bool.eq_not_self _).1 hm).elim, fun r => ?_⟩
    rw [turn_same, turnActs_same]
    exact .nil
  · obtain rfl : mounted = !on := Bool.eq_not.2 hm
    rcases hd : MountBackend.turn on b base label t with ⟨answer, b', t'⟩
    have hturn := turn_of_driver hd
    have hacts := turnActs_of_driver hd
    refine ⟨fun hm => ((Bool.not_eq_self _).1 hm).elim, fun _ => ⟨answer, hacts, ?_, ?_⟩, fun r => ?_⟩
    · rw [hturn]
    · rw [hturn]
    · rw [hturn, hacts]
      exact .single (.drive hd)

theorem turn_partition? (m : MountPoint β) (on : Bool) (t : FileTree) :
    (m.turn on t).2.1.partition? = m.partition? := by
  obtain ⟨base, owner, mounted⟩ := m
  cases owner with
  | application => rw [turn_application]
  | library b label =>
    by_cases hm : mounted = on
    · rw [hm, turn_same]
    · rw [Bool.eq_not.2 hm, turn_of_driver rfl]
      rfl

theorem turnAll_application (base : Path) (mounted : Bool) (turns : List (Bool × FileTree)) :
    (⟨base, .application, mounted⟩ : MountPoint β).turnAll turns = ⟨base, .application, mounted⟩ ∧
      (⟨base, .application, mounted⟩ : MountPoint β).turnActsAll turns = [] := by
  induction turns with
  | nil => exact ⟨rfl, rfl⟩
  | cons turn rest ih =>
    rw [turnAll, turnActsAll, turn_application]
    exact ih

theorem turnAll_partition? (m : MountPoint β) (turns : List (Bool × FileTree)) :
    (m.turnAll turns).partition? = m.partition? := by
  induction turns generalizing m with
  | nil => rfl
  | cons turn rest ih => exact (ih _).trans (m.turn_partition? turn.1 turn.2)

theorem disciplined_turn (h : m.partition? = some (base, label)) {acts : List Act}
    (hd : Disciplined base label acts m.mounted) (on : Bool) (t : FileTree) :
    Disciplined base label (acts ++ m.turnActs on t) (m.turn on t).2.1.mounted := by
  have ht := turns h on t
  by_cases hm : m.mounted = on
  · obtain ⟨ha, hturn⟩ := ht.idle hm
    rw [ha, hturn, List.append_nil]
    exact hd
  · have hon : m.mounted = !on := Bool.eq_not.2 hm
    obtain ⟨answer, ha, -, hflag⟩ := ht.driven hon
    rw [ha, hflag, hon]
    exact (hon ▸ hd).drive answer

theorem disciplined_turnAll (h : m.partition? = some (base, label)) {acts : List Act}
    (hd : Disciplined base label acts m.mounted) (turns : List (Bool × FileTree)) :
    Disciplined base label (acts ++ m.turnActsAll turns) (m.turnAll turns).mounted := by
  induction turns generalizing m acts with
  | nil =>
    rw [turnActsAll, List.append_nil]
    exact hd
  | cons turn rest ih =>
    rw [turnActsAll, ← List.append_assoc]
    exact ih ((m.turn_partition? turn.1 turn.2).trans h) (disciplined_turn h hd turn.1 turn.2)

end MountPoint

namespace Storage

variable {β υ : Type}

def Use.failure (e : PersistenceError) : Use → Answer
  | .prepare | .release | .tryPersist _ => .done (.error e)
  | .isInitialized | .persist _ | .clear => .found false
  | .load => .state (.error e)

variable [MountBackend β] {s s' : Storage β υ} {base : Path} {label : String} {acts : List Act}

theorem Turning.disciplined {on : Bool} {more : List Act} {result : Except PersistenceError Unit}
    (h : Turning on s more result s') (hp : s.partition? = some (base, label))
    (hd : Disciplined base label acts s.isMounted) :
    Disciplined base label (acts ++ more) s'.isMounted ∧ (result = .ok () → s'.isMounted = on) := by
  cases h with
  | idle h =>
    rw [List.append_nil]
    exact ⟨hd, fun _ => h (by simp [hp])⟩
  | driven h =>
    cases hp
    refine ⟨Disciplined.drive hd _, fun hr => ?_⟩
    rename_i answer
    cases answer with
    | ok u => rfl
    | error e => cases hr

variable [StateRecorder υ]

omit [MountBackend β] in
theorem store_isMounted (s : Storage β υ) (state : Bytes) :
    (s.store state).2.isMounted = s.isMounted := by
  rw [isMounted, store_mountPoint, isMounted]

omit [MountBackend β] [StateRecorder υ] in
theorem onState_readActs (s : Storage β υ) : ∀ act ∈ s.readActs, act.OnState := by
  intro act h
  unfold readActs at h
  split at h
  · cases List.mem_singleton.1 h
    trivial
  · cases h

omit [MountBackend β] in
theorem onState_storeActs (s : Storage β υ) (state : Bytes) :
    ∀ act ∈ s.storeActs state, act.OnState := by
  intro act h
  unfold storeActs at h
  split at h <;> cases List.mem_singleton.1 h <;> trivial

theorem Using.disciplined {more : List Act} (h : Using s more s')
    (hp : s.partition? = some (base, label)) (hd : Disciplined base label acts s.isMounted) :
    Disciplined base label (acts ++ more) s'.isMounted := by
  cases h with
  | looked h => rw [hp] at h; cases h
  | turned h => exact (h.disciplined hp hd).1
  | read h =>
    obtain ⟨hd, hm⟩ := h.disciplined hp hd
    rw [← List.append_assoc, hm rfl]
    exact (hm rfl ▸ hd).passes fun act ha => (onState_readActs _ act ha).allowed
  | stored h state =>
    obtain ⟨hd, hm⟩ := h.disciplined hp hd
    rw [← List.append_assoc, store_isMounted, hm rfl]
    exact (hm rfl ▸ hd).passes fun act ha => (onState_storeActs _ state act ha).allowed

theorem disciplined_useAll (hp : s.partition? = some (base, label)) (hm : s.isMounted = false)
    (uses : List Use) : Disciplined base label (s.actsAll uses) (s.useAll uses).isMounted :=
  useAll_induction (motive := fun acts s' => Disciplined base label acts s'.isMounted)
    (hm ▸ Disciplined.nil) (fun _ _ _ _ hp' _ h hu => hu.disciplined (hp'.trans hp) h) uses

omit [StateRecorder υ] in
theorem turn_idle {on : Bool} (hp : s.partition? = some (base, label)) (hm : s.isMounted = on) :
    s.turnActs on = [] ∧ (s.turn on).1 = .ok () ∧ (s.turn on).2 = s := by
  have h := s.turning on
  generalize s.turnActs on = acts, (s.turn on).1 = result, (s.turn on).2 = s' at h ⊢
  cases h with
  | idle _ => exact ⟨rfl, rfl, rfl⟩
  | driven _ => exact ((Bool.not_eq_self on).1 hm).elim

omit [StateRecorder υ] in
theorem turn_driven (on : Bool) (hp : s.partition? = some (base, label)) (hm : s.isMounted = !on) :
    ∃ answer, s.turnActs on = [.drive ⟨on, base, label, answer⟩] ∧
      (s.turn on).1 = (answer.mapError fun e => .mount (.backend base e)) ∧
      (s.turn on).2.isMounted = if answer.isOk then on else !on := by
  have h := s.turning on
  generalize s.turnActs on = acts, (s.turn on).1 = result, (s.turn on).2 = s' at h ⊢
  cases h with
  | idle h =>
    rw [h (by simp [hp])] at hm
    exact ((Bool.eq_not_self on).1 hm).elim
  | driven _ =>
    cases hp
    exact ⟨_, rfl, rfl, rfl⟩

/-- The partition is mounted first. Where that fails, nothing else is done, and the failure is told;
otherwise the driver is not called again. -/
structure MountsFirst (s : Storage β υ) (acts : List Act) (s' : Storage β υ)
    (failed : PersistenceError → Prop) : Prop where
  acts : ∃ more, acts = s.turnActs true ++ more ∧ (∀ call, .drive call ∉ more) ∧
    ∀ e, s.ensureMounted.1 = .error e → more = []
  isMounted : s'.isMounted = s.ensureMounted.2.isMounted
  failed : ∀ e, s.ensureMounted.1 = .error e → failed e

omit [StateRecorder υ] in
theorem MountsFirst.imp {failed failed' : PersistenceError → Prop} (h : MountsFirst s acts s' failed)
    (hf : ∀ e, failed e → failed' e) : MountsFirst s acts s' failed' :=
  ⟨h.acts, h.isMounted, fun e he => hf e (h.failed e he)⟩

omit [StateRecorder υ] in
theorem mountsFirst_once {α : Type} (s : Storage β υ)
    {run : Storage β υ → Except PersistenceError α × Storage β υ} {acts : Storage β υ → List Act}
    (hr : ∀ s, (run s).2.isMounted = s.isMounted) (ha : ∀ s, ∀ act ∈ acts s, act.OnState) :
    MountsFirst s (s.mountedActs acts) (s.onceMounted run).2
      fun e => (s.onceMounted run).1 = .error e := by
  unfold mountedActs onceMounted
  rcases hm : s.ensureMounted with ⟨e | ⟨⟩, s'⟩
  · exact ⟨⟨[], rfl, by simp, fun _ _ => rfl⟩, by rw [hm], by simp [hm]⟩
  · exact ⟨⟨acts s', rfl, fun call => ha s' (.drive call), by simp [hm]⟩, by rw [hm]; exact hr s',
      by simp [hm]⟩

omit [StateRecorder υ] in
theorem load_mountsFirst (s : Storage β υ) :
    MountsFirst s (s.mountedActs readActs) s.load.2 fun e => s.load.1 = .error e := by
  rw [load_onceMounted]
  exact s.mountsFirst_once (fun _ => rfl) onState_readActs

theorem tryPersist_mountsFirst (s : Storage β υ) (state : Bytes) :
    MountsFirst s (s.mountedActs (storeActs · state)) (s.tryPersist state).2
      fun e => (s.tryPersist state).1 = .error e := by
  rw [tryPersist_onceMounted]
  exact s.mountsFirst_once (store_isMounted · state) (onState_storeActs · state)

theorem persist_mountsFirst (s : Storage β υ) (state : Bytes) :
    MountsFirst s (s.mountedActs (storeActs · state)) (s.persist state).2
      fun _ => (s.persist state).1 = false :=
  (s.tryPersist_mountsFirst state).imp fun _ he => congrArg Except.isOk he

theorem prepare_of_partition (hp : s.partition? = some (base, label)) :
    s.acts .prepare = s.turnActs true ∧ s.prepare = s.ensureMounted := by
  obtain ⟨backing, _ | ⟨base', _ | _, mounted⟩, files⟩ := s
  · exact ⟨rfl, rfl⟩
  · exact ⟨rfl, rfl⟩
  · cases hp

theorem use_mountsFirst (hp : s.partition? = some (base, label)) {u : Use} (hu : u ≠ .release) :
    MountsFirst s (s.acts u) (s.use u).2 fun e => (s.use u).1 = u.failure e := by
  cases u with
  | release => exact absurd rfl hu
  | prepare =>
    obtain ⟨hacts, hprepare⟩ := prepare_of_partition hp
    rw [hacts, use, hprepare]
    exact ⟨⟨[], (List.append_nil _).symm, by simp, fun _ _ => rfl⟩, rfl,
      fun e he => congrArg Answer.done he⟩
  | isInitialized =>
    rw [use, isInitialized_snd]
    -- the query reads, and passes over what made the read fail
    refine s.load_mountsFirst.imp fun e he => ?_
    rw [Use.failure, Answer.found.injEq]
    unfold isInitialized
    rcases hl : s.load with ⟨e | state, s'⟩
    · rfl
    · rw [hl] at he
      cases he
  | load => exact s.load_mountsFirst.imp fun e he => congrArg Answer.state he
  | tryPersist state =>
    exact (s.tryPersist_mountsFirst state).imp fun e he => congrArg Answer.done he
  | persist state => exact (s.persist_mountsFirst state).imp fun _ he => congrArg Answer.found he
  | clear => exact (s.persist_mountsFirst []).imp fun _ he => congrArg Answer.found he

/-- What further uses do about the partition. Where it is not mounted, each of them calls the driver
for a mount first, as it did before if that failed, and goes on only if it succeeds; a release calls
the driver where the partition is mounted. A call that fails leaves the flag as it is. -/
structure Retries (s : Storage β υ) (base : Path) (label : String) : Prop where
  mounts : s.isMounted = false → ∀ u, u ≠ .release → ∃ answer more,
    s.acts u = .drive ⟨true, base, label, answer⟩ :: more ∧ (∀ call, .drive call ∉ more) ∧
    (s.use u).2.isMounted = answer.isOk ∧ ∀ e, answer = .error e →
      more = [] ∧ (s.use u).1 = u.failure (.mount (.backend base e))
  stays : s.isMounted = true → ∀ u, u ≠ .release →
    (∀ call, .drive call ∉ s.acts u) ∧ (s.use u).2.isMounted = true
  released : s.isMounted = false → s.acts .release = [] ∧ s.use .release = (.done (.ok ()), s)
  releases : s.isMounted = true → ∃ answer, s.acts .release = [.drive ⟨false, base, label, answer⟩] ∧
    (s.use .release).2.isMounted = !answer.isOk ∧
    (s.use .release).1 = .done (answer.mapError fun e => .mount (.backend base e))

theorem retries (hp : s.partition? = some (base, label)) : s.Retries base label where
  mounts := by
    intro hm u hu
    -- the driver is called first, and its answer decides how the use goes on
    obtain ⟨answer, ha, hr, hflag⟩ := turn_driven true hp hm
    obtain ⟨⟨more, hacts, hmore, hnone⟩, hmounted, hfailed⟩ := use_mountsFirst hp hu
    rw [turn_true] at hr hflag
    refine ⟨answer, more, by rw [hacts, ha]; rfl, hmore, ?_, fun e he => ?_⟩
    · rw [hmounted, hflag]
      cases answer <;> rfl
    · subst he
      exact ⟨hnone _ hr, hfailed _ hr⟩
  stays := by
    intro hm u hu
    obtain ⟨ha, -, hstay⟩ := turn_idle hp hm
    obtain ⟨⟨more, hacts, hmore, -⟩, hmounted, -⟩ := use_mountsFirst hp hu
    rw [hacts, ha, hmounted, ← turn_true, hstay]
    exact ⟨hmore, hm⟩
  released := by
    intro hm
    obtain ⟨ha, hr, hstay⟩ := turn_idle hp hm
    exact ⟨ha, Prod.ext (congrArg Answer.done hr) hstay⟩
  releases := by
    intro hm
    obtain ⟨answer, ha, hr, hflag⟩ := turn_driven false hp hm
    refine ⟨answer, ha, hflag.trans ?_, congrArg Answer.done hr⟩
    cases answer <;> rfl

/-- The acts of a number of uses and of the closing that follows them. -/
def lifeActs (s : Storage β υ) (uses : List Use) : List Act :=
  s.actsAll uses ++ (s.useAll uses).turnActs false

theorem leads_life (s : Storage β υ) (uses : List Use) :
    Leads s.surroundings (s.lifeActs uses) (s.useAll uses).close.surroundings :=
  (s.leads_useAll uses).append ((s.useAll uses).turning false).leads

/-- As many mounts succeeded as unmounts did, or the last act is an unmount that failed. -/
def Balanced (base : Path) (label : String) (acts : List Act) : Prop :=
  (successes acts).countP (·.mounting) = (successes acts).countP (!·.mounting) ∨
    ∃ e, acts.getLast? = some (.drive ⟨false, base, label, .error e⟩)

omit [StateRecorder υ] in
theorem balanced_release (hp : s.partition? = some (base, label))
    (hd : Disciplined base label acts s.isMounted) :
    Balanced base label (acts ++ s.turnActs false) := by
  cases hm : s.isMounted with
  | false =>
    rw [(turn_idle hp hm).1, List.append_nil]
    exact .inl (hm ▸ hd).balance
  | true =>
    obtain ⟨answer, ha, -, -⟩ := turn_driven false hp hm
    rw [ha]
    cases answer with
    | ok u => exact .inl ((hm ▸ hd).success u).balance
    | error e => exact .inr ⟨e, List.getLast?_concat⟩

/-- The life of a storage whose partition the library manages. -/
structure Managed (s : Storage β υ) (base : Path) (label : String) (uses : List Use) : Prop where
  disciplined : Disciplined base label (s.actsAll uses) (s.useAll uses).isMounted
  retries : (s.useAll uses).Retries base label
  balanced : Balanced base label (s.lifeActs uses)

theorem managed (hp : s.partition? = some (base, label)) (hm : s.isMounted = false)
    (uses : List Use) : s.Managed base label uses := by
  have hd := disciplined_useAll hp hm uses
  have hp' := (s.partition?_useAll uses).trans hp
  exact ⟨hd, retries hp', balanced_release hp' hd⟩

/-- The life of a storage without such a partition: no driver is called, and there is nothing to
release. -/
structure Unmanaged (s : Storage β υ) (uses : List Use) : Prop where
  quiet : ∀ call, .drive call ∉ s.lifeActs uses
  mountPoint : (s.useAll uses).mountPoint = s.mountPoint
  released : (s.useAll uses).use .release = (.done (.ok ()), s.useAll uses)

omit [StateRecorder υ] in
theorem Turning.of_unmanaged {on : Bool} {result : Except PersistenceError Unit}
    (h : Turning on s acts result s') (hp : s.partition? = none) :
    acts = [] ∧ result = .ok () ∧ s' = s := by
  cases h with
  | idle _ => exact ⟨rfl, rfl, rfl⟩
  | driven _ => cases hp

theorem Using.unmanaged (h : Using s acts s') (hp : s.partition? = none) :
    (∀ call, .drive call ∉ acts) ∧ s'.mountPoint = s.mountPoint := by
  cases h with
  | looked _ => exact ⟨by simp, rfl⟩
  | turned h =>
    obtain ⟨rfl, -, rfl⟩ := h.of_unmanaged hp
    exact ⟨by simp, rfl⟩
  | read h =>
    obtain ⟨rfl, -, rfl⟩ := h.of_unmanaged hp
    exact ⟨fun call => onState_readActs _ (.drive call), rfl⟩
  | stored h state =>
    obtain ⟨rfl, -, rfl⟩ := h.of_unmanaged hp
    exact ⟨fun call => onState_storeActs _ state (.drive call), store_mountPoint _ state⟩

theorem quiet_useAll (hp : s.partition? = none) (uses : List Use) :
    (∀ call, .drive call ∉ s.actsAll uses) ∧ (s.useAll uses).mountPoint = s.mountPoint := by
  refine useAll_induction
    (motive := fun acts s' => (∀ call, .drive call ∉ acts) ∧ s'.mountPoint = s.mountPoint)
    ⟨by simp, rfl⟩ (fun acts s' more s'' hp' _ ⟨hquiet, hmount⟩ hu => ?_) uses
  obtain ⟨hmore, hlast⟩ := hu.unmanaged (hp'.trans hp)
  exact ⟨fun call h => (List.mem_append.1 h).elim (hquiet call) (hmore call), hlast.trans hmount⟩

theorem unmanaged (hp : s.partition? = none) (uses : List Use) : s.Unmanaged uses := by
  obtain ⟨hquiet, hmount⟩ := quiet_useAll hp uses
  obtain ⟨ha, hr, hs⟩ := ((s.useAll uses).turning false).of_unmanaged
    ((s.partition?_useAll uses).trans hp)
  refine ⟨fun call => ?_, hmount, Prod.ext (congrArg Answer.done hr) hs⟩
  rw [lifeActs, ha, List.append_nil]
  exact hquiet call

end Storage

def StorageConfig.partition? {β υ : Type} : StorageConfig β υ → Option (Partition β)
  | .fileLibrary partition | .callbackLibrary partition .. => some partition
  | .fileApplication _ | .callbackApplication .. => none

namespace Storage

variable {β υ : Type}

theorem make_partition? (config : StorageConfig β υ) (files : FileTree) :
    (make config files).partition? = config.partition?.map fun p => (p.base, p.label) := by
  rcases config with _ | _ | _ | ⟨_ | _, _, _⟩ <;> rfl

theorem make_isMounted (config : StorageConfig β υ) (files : FileTree) :
    (make config files).isMounted = false := by
  rcases config with _ | _ | _ | ⟨_ | _, _, _⟩ <;> rfl

end Storage

end SensorLink
