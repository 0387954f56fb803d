import SensorLink.Proofs.Storage.Mounting

namespace SensorLink

/-- A call of a partition's driver, with the driver's answer. -/
structure DriverCall where
  mounting : Bool
  base : Path
  label : String
  answer : Except IoError Unit

/-- What a storage does outside itself. Nothing else changes there, and its answers depend on what
lies there by the results of its acts alone. -/
inductive Act where
  | drive (call : DriverCall)
  | look (base : Path) (found : Bool)
  | read (path : Path) (result : Except PersistenceError (Option Bytes))
  | write (path : Path) (state : Bytes) (result : Except PersistenceError Unit)
  | update (state : Bytes) (accepted : Bool)

structure Surroundings (β υ : Type) where
  driver : Option β
  recorder : Option υ
  files : FileTree

section Happening

variable {β υ : Type} [MountBackend β] [StateRecorder υ]

def MountBackend.turn (on : Bool) (b : β) (base : Path) (label : String) (t : FileTree) :
    Except IoError Unit × β × FileTree :=
  if on then MountBackend.mount b base label t else MountBackend.unmount b base label t

/-- What an act makes of the surroundings, given that its result is what it says. -/
inductive Act.Happens : Surroundings β υ → Act → Surroundings β υ → Prop where
  | drive {call : DriverCall} {b b' : β} {r : Option υ} {t t' : FileTree}
      (h : MountBackend.turn call.mounting b call.base call.label t = (call.answer, b', t')) :
      Happens ⟨some b, r, t⟩ (.drive call) ⟨some b', r, t'⟩
  | look {b : Option β} {r : Option υ} {t : FileTree} {base : Path} :
      Happens ⟨b, r, t⟩ (.look base (t.isDir base)) ⟨b, r, t⟩
  | read {b : Option β} {r : Option υ} {t : FileTree} {path : Path} :
      Happens ⟨b, r, t⟩ (.read path (Record.readAt t path)) ⟨b, r, t⟩
  | write {b : Option β} {r : Option υ} {t : FileTree} {path : Path} {state : Bytes} :
      Happens ⟨b, r, t⟩ (.write path state (Record.writeAt t path state).1)
        ⟨b, r, (Record.writeAt t path state).2⟩
  | update {b : Option β} {r : υ} {t : FileTree} {state : Bytes} :
      Happens ⟨b, some r, t⟩ (.update state (StateRecorder.update r state).1)
        ⟨b, some (StateRecorder.update r state).2, t⟩

/-- The acts lead from the one surroundings to the other, each on what the one before it left. -/
inductive Leads : Surroundings β υ → List Act → Surroundings β υ → Prop where
  | nil {w : Surroundings β υ} : Leads w [] w
  | cons {w w' w'' : Surroundings β υ} {act : Act} {acts : List Act} (h : act.Happens w w')
      (h' : Leads w' acts w'') : Leads w (act :: acts) w''

namespace Leads

variable {w w' w'' : Surroundings β υ} {acts more : List Act}

theorem single {act : Act} (h : act.Happens w w') : Leads w [act] w' := .cons h .nil

theorem append (h : Leads w acts w') (h' : Leads w' more w'') : Leads w (acts ++ more) w'' := by
  induction h with
  | nil => exact h'
  | cons ha _ ih => exact .cons ha (ih h')

end Leads

end Happening

namespace MountPoint

variable {β : Type} [MountBackend β]

def turn (on : Bool) (m : MountPoint β) (t : FileTree) :
    Except MountError Unit × MountPoint β × FileTree :=
  if on then m.mount t else m.unmount t

def turnActs (on : Bool) (m : MountPoint β) (t : FileTree) : List Act :=
  match m.owner with
  | .application => []
  | .library b label =>
    if m.mounted = on then []
    else [.drive ⟨on, m.base, label, (MountBackend.turn on b m.base label t).1⟩]

omit [MountBackend β] in
def driver? (m : MountPoint β) : Option β :=
  match m.owner with
  | .library b _ => some b
  | .application => none

omit [MountBackend β] in
def partition? (m : MountPoint β) : Option (Path × String) :=
  match m.owner with
  | .library _ label => some (m.base, label)
  | .application => none

theorem turn_application (on : Bool) (base : Path) (mounted : Bool) (t : FileTree) :
    (⟨base, .application, mounted⟩ : MountPoint β).turn on t =
      (if on then .error (.notOwner base) else .ok (), ⟨base, .application, mounted⟩, t) := by
  cases on <;> rfl

theorem turn_same (on : Bool) (base : Path) (b : β) (label : String) (t : FileTree) :
    (⟨base, .library b label, on⟩ : MountPoint β).turn on t =
      (.ok (), ⟨base, .library b label, on⟩, t) := by
  cases on <;> rfl

theorem turnActs_same (on : Bool) (base : Path) (b : β) (label : String) (t : FileTree) :
    (⟨base, .library b label, on⟩ : MountPoint β).turnActs on t = [] := if_pos rfl

theorem turn_of_driver {on : Bool} {base : Path} {b b' : β} {label : String} {t t' : FileTree}
    {answer : Except IoError Unit}
    (h : MountBackend.turn on b base label t = (answer, b', t')) :
    (⟨base, .library b label, !on⟩ : MountPoint β).turn on t =
      (answer.mapError (.backend base),
        ⟨base, .library b' label, if answer.isOk then on else !on⟩, t') := by
  cases on with
  | true =>
    have h' : MountBackend.mount b base label t = (answer, b', t') := h
    simp only [turn, mount, h']
    cases answer <;> rfl
  | false =>
    have h' : MountBackend.unmount b base label t = (answer, b', t') := h
    simp only [turn, unmount, h']
    cases answer <;> rfl

theorem turnActs_of_driver {on : Bool} {base : Path} {b b' : β} {label : String} {t t' : FileTree}
    {answer : Except IoError Unit}
    (h : MountBackend.turn on b base label t = (answer, b', t')) :
    (⟨base, .library b label, !on⟩ : MountPoint β).turnActs on t =
      [.drive ⟨on, base, label, answer⟩] := by
  have hm : ¬(!on) = on := (Bool.not_eq_self on).1
  simp only [turnActs, if_neg hm, h]

end MountPoint

namespace Storage

variable {β υ : Type}

def surroundings (s : Storage β υ) : Surroundings β υ where
  driver := s.mountPoint.bind (·.driver?)
  recorder := s.recorder?
  files := s.files

/-- Base and label of the partition that the library manages for the storage, if there is one. -/
def partition? (s : Storage β υ) : Option (Path × String) := s.mountPoint.bind (·.partition?)

def isMounted (s : Storage β υ) : Bool := s.mountPoint.any (·.mounted)

/-- The storage without what it acts on: what it keeps to itself. -/
def memory (s : Storage β υ) : Storage Unit Unit where
  backing := match s.backing with
    | .file path => .file path
    | .callback _ latest => .callback () latest
  mountPoint := s.mountPoint.map fun m =>
    match m.owner with
    | .library _ label => ⟨m.base, .library () label, m.mounted⟩
    | .application => ⟨m.base, .application, m.mounted⟩
  files := {}

inductive Use where
  | prepare
  | release
  | isInitialized
  | load
  | tryPersist (state : Bytes)
  | persist (state : Bytes)
  | clear
deriving DecidableEq, Repr

inductive Answer where
  | done (result : Except PersistenceError Unit)
  | found (yes : Bool)
  | state (result : Except PersistenceError (Option Bytes))

variable [MountBackend β]

def turn (on : Bool) (s : Storage β υ) : Except PersistenceError Unit × Storage β υ :=
  s.withPartition (MountPoint.turn on)

theorem turn_true (s : Storage β υ) : s.turn true = s.ensureMounted := rfl

def turnActs (on : Bool) (s : Storage β υ) : List Act :=
  match s.mountPoint with
  | none => []
  | some m => m.turnActs on s.files

/-- What a turn of the partition comes to: nothing is done, or the driver is called. -/
inductive Turning (on : Bool) :
    Storage β υ → List Act → Except PersistenceError Unit → Storage β υ → Prop where
  | idle {s : Storage β υ} (h : s.partition? ≠ none → s.isMounted = on) :
      Turning on s [] (.ok ()) s
  | driven {backing : Backing υ} {base : Path} {label : String} {b b' : β} {t t' : FileTree}
      {answer : Except IoError Unit}
      (h : MountBackend.turn on b base label t = (answer, b', t')) :
      Turning on ⟨backing, some ⟨base, .library b label, !on⟩, t⟩
        [.drive ⟨on, base, label, answer⟩]
        (answer.mapError fun e => .mount (.backend base e))
        ⟨backing, some ⟨base, .library b' label, if answer.isOk then on else !on⟩, t'⟩

theorem turning (on : Bool) (s : Storage β υ) :
    Turning on s (s.turnActs on) (s.turn on).1 (s.turn on).2 := by
  obtain ⟨backing, mountPoint, files⟩ := s
  cases mountPoint with
  | none => exact .idle fun h => absurd rfl h
  | some m =>
    obtain ⟨base, owner, mounted⟩ := m
    cases owner with
    | application => exact .idle fun h => absurd rfl h
    | library b label =>
      -- the driver is called only where the flag is not yet what is asked for
      by_cases hm : mounted = on
      · subst hm
        have ha : (⟨backing, some ⟨base, .library b label, mounted⟩, files⟩ :
            Storage β υ).turnActs mounted = [] := MountPoint.turnActs_same ..
        have ht : (⟨backing, some ⟨base, .library b label, mounted⟩, files⟩ :
            Storage β υ).turn mounted = (.ok (), ⟨backing, some ⟨base, .library b label, mounted⟩,
              files⟩) := by
          simp only [turn, withPartition, MountPoint.turn_same]
          rfl
        rw [ha, ht]
        exact .idle fun _ => rfl
      · obtain rfl : mounted = !on := Bool.eq_not.2 hm
        rcases hd : MountBackend.turn on b base label files with ⟨answer, b', files'⟩
        have ha : (⟨backing, some ⟨base, .library b label, !on⟩, files⟩ :
            Storage β υ).turnActs on = [.drive ⟨on, base, label, answer⟩] :=
          MountPoint.turnActs_of_driver hd
        have ht : (⟨backing, some ⟨base, .library b label, !on⟩, files⟩ : Storage β υ).turn on =
            (answer.mapError fun e => .mount (.backend base e), ⟨backing,
              some ⟨base, .library b' label, if answer.isOk then on else !on⟩, files'⟩) := by
          simp only [turn, withPartition, MountPoint.turn_of_driver hd]
          cases answer <;> rfl
        rw [ha, ht]
        exact .driven hd

/-- Mounts the partition, and goes on if it is mounted. -/
def onceMounted {α : Type} (s : Storage β υ)
    (run : Storage β υ → Except PersistenceError α × Storage β υ) :
    Except PersistenceError α × Storage β υ :=
  match s.ensureMounted with
  | (.ok (), s) => run s
  | (.error e, s) => (.error e, s)

theorem load_onceMounted (s : Storage β υ) : s.load = s.onceMounted fun s => (s.held, s) := s.load_eq

variable [StateRecorder υ]

theorem tryPersist_onceMounted (state : Bytes) (s : Storage β υ) :
    s.tryPersist state = s.onceMounted (·.store state) := s.tryPersist_eq state

def readActs (s : Storage β υ) : List Act :=
  match s.backing with
  | .file path => [.read path (Record.readAt s.files path)]
  | .callback .. => []

def storeActs (s : Storage β υ) (state : Bytes) : List Act :=
  match s.backing with
  | .file path => [.write path state (Record.writeAt s.files path state).1]
  | .callback recorder _ => [.update state (StateRecorder.update recorder state).1]

def mountedActs (s : Storage β υ) (acts : Storage β υ → List Act) : List Act :=
  s.turnActs true ++
    match s.ensureMounted with
    | (.ok (), s) => acts s
    | (.error _, _) => []

def use (s : Storage β υ) : Use → Answer × Storage β υ
  | .prepare => (.done s.prepare.1, s.prepare.2)
  | .release => (.done s.release.1, s.release.2)
  | .isInitialized => (.found s.isInitialized.1, s.isInitialized.2)
  | .load => (.state s.load.1, s.load.2)
  | .tryPersist state => (.done (s.tryPersist state).1, (s.tryPersist state).2)
  | .persist state => (.found (s.persist state).1, (s.persist state).2)
  | .clear => (.found s.clear.1, s.clear.2)

def acts (s : Storage β υ) : Use → List Act
  | .prepare =>
    match s.mountPoint, s.backing with
    | some ⟨base, .application, _⟩, .file _ => [.look base (s.files.isDir base)]
    | _, _ => s.turnActs true
  | .release => s.turnActs false
  | .isInitialized | .load => s.mountedActs readActs
  | .tryPersist state | .persist state => s.mountedActs (storeActs · state)
  | .clear => s.mountedActs (storeActs · [])

def useAll (s : Storage β υ) : List Use → Storage β υ
  | [] => s
  | u :: rest => (s.use u).2.useAll rest

/-- The acts of a number of uses, in order. -/
def actsAll (s : Storage β υ) : List Use → List Act
  | [] => []
  | u :: rest => s.acts u ++ (s.use u).2.actsAll rest

theorem useAll_append (s : Storage β υ) (uses more : List Use) :
    s.useAll (uses ++ more) = (s.useAll uses).useAll more := by
  induction uses generalizing s with
  | nil => rfl
  | cons u rest ih => exact ih (s.use u).2

/-- What a use comes to: a look, a turn of the partition, or a read or a store once it is mounted. -/
inductive Using (s : Storage β υ) : List Act → Storage β υ → Prop where
  | looked {base : Path} (h : s.partition? = none) : Using s [.look base (s.files.isDir base)] s
  | turned {on : Bool} {acts : List Act} {result : Except PersistenceError Unit} {s' : Storage β υ}
      (h : Turning on s acts result s') : Using s acts s'
  | read {acts : List Act} {s' : Storage β υ} (h : Turning true s acts (.ok ()) s') :
      Using s (acts ++ s'.readActs) s'
  | stored {acts : List Act} {s' : Storage β υ} (h : Turning true s acts (.ok ()) s')
      (state : Bytes) : Using s (acts ++ s'.storeActs state) (s'.store state).2

omit [StateRecorder υ] in
theorem turning_ensureMounted (s : Storage β υ) :
    Turning true s (s.turnActs true) s.ensureMounted.1 s.ensureMounted.2 := s.turning true

theorem load_using (s : Storage β υ) : Using s (s.mountedActs readActs) s.load.2 := by
  have ht := s.turning_ensureMounted
  rw [load_eq, mountedActs]
  rcases hm : s.ensureMounted with ⟨e | ⟨⟩, s'⟩ <;> rw [hm] at ht
  · rw [List.append_nil]
    exact .turned ht
  · exact .read ht

theorem tryPersist_using (s : Storage β υ) (state : Bytes) :
    Using s (s.mountedActs (storeActs · state)) (s.tryPersist state).2 := by
  have ht := s.turning_ensureMounted
  rw [tryPersist_eq, mountedActs]
  rcases hm : s.ensureMounted with ⟨e | ⟨⟩, s'⟩ <;> rw [hm] at ht
  · rw [List.append_nil]
    exact .turned ht
  · exact .stored ht state

theorem prepare_using (s : Storage β υ) : Using s (s.acts .prepare) s.prepare.2 := by
  obtain ⟨backing, mountPoint, files⟩ := s
  -- only a file in a directory of the application is looked for; all else is mounted
  rcases mountPoint with _ | ⟨base, _ | _, mounted⟩
  · exact .turned (turning_ensureMounted _)
  · exact .turned (turning_ensureMounted _)
  · cases backing with
    | callback recorder latest => exact .turned (turning_ensureMounted _)
    | file path =>
      simp only [prepare]
      split <;> exact .looked rfl

omit [StateRecorder υ] in
theorem isInitialized_snd (s : Storage β υ) : s.isInitialized.2 = s.load.2 := by
  unfold isInitialized
  rcases s.load with ⟨e | state, s'⟩ <;> rfl

theorem use_using (s : Storage β υ) (u : Use) : Using s (s.acts u) (s.use u).2 := by
  cases u with
  | prepare => exact s.prepare_using
  | release => exact .turned (s.turning false)
  | isInitialized =>
    rw [use, isInitialized_snd]
    exact s.load_using
  | load => exact s.load_using
  | tryPersist state | persist state => exact s.tryPersist_using state
  | clear => exact s.tryPersist_using []

omit [StateRecorder υ] in
theorem Turning.partition?_eq {on : Bool} {s s' : Storage β υ} {acts : List Act}
    {result : Except PersistenceError Unit} (h : Turning on s acts result s') :
    s'.partition? = s.partition? := by
  cases h <;> rfl

omit [StateRecorder υ] in
theorem Turning.recordPath?_eq {on : Bool} {s s' : Storage β υ} {acts : List Act}
    {result : Except PersistenceError Unit} (h : Turning on s acts result s') :
    s'.recordPath? = s.recordPath? := by
  cases h <;> rfl

theorem Turning.leads {on : Bool} {s s' : Storage β υ} {acts : List Act}
    {result : Except PersistenceError Unit} (h : Turning on s acts result s') :
    Leads s.surroundings acts s'.surroundings := by
  cases h with
  | idle _ => exact .nil
  | driven h => exact .single (.drive h)

omit [MountBackend β] in
theorem store_partition? (s : Storage β υ) (state : Bytes) :
    (s.store state).2.partition? = s.partition? := by
  rw [partition?, store_mountPoint, partition?]

omit [MountBackend β] in
theorem store_recordPath? (s : Storage β υ) (state : Bytes) :
    (s.store state).2.recordPath? = s.recordPath? := by
  obtain ⟨backing, mountPoint, files⟩ := s
  cases backing with
  | file path => rfl
  | callback recorder latest =>
    simp only [store]
    rcases StateRecorder.update recorder state with ⟨_ | _, recorder'⟩ <;> rfl

theorem leads_read (s : Storage β υ) : Leads s.surroundings s.readActs s.surroundings := by
  obtain ⟨backing, mountPoint, files⟩ := s
  cases backing with
  | file path => exact .single .read
  | callback recorder latest => exact .nil

theorem leads_store (s : Storage β υ) (state : Bytes) :
    Leads s.surroundings (s.storeActs state) (s.store state).2.surroundings := by
  obtain ⟨backing, mountPoint, files⟩ := s
  cases backing with
  | file path => exact .single .write
  | callback recorder latest =>
    have h : Act.Happens (⟨mountPoint.bind (·.driver?), some recorder, files⟩ : Surroundings β υ)
        (.update state (StateRecorder.update recorder state).1)
        ⟨mountPoint.bind (·.driver?), some (StateRecorder.update recorder state).2, files⟩ := .update
    simp only [store, storeActs]
    rcases hu : StateRecorder.update recorder state with ⟨_ | _, recorder'⟩ <;> rw [hu] at h <;>
      exact .single h

namespace Using

variable {s s' : Storage β υ} {acts : List Act}

theorem partition?_eq (h : Using s acts s') : s'.partition? = s.partition? := by
  cases h with
  | looked _ => rfl
  | turned h | read h => exact h.partition?_eq
  | stored h state => exact (store_partition? _ state).trans h.partition?_eq

theorem recordPath?_eq (h : Using s acts s') : s'.recordPath? = s.recordPath? := by
  cases h with
  | looked _ => rfl
  | turned h | read h => exact h.recordPath?_eq
  | stored h state => exact (store_recordPath? _ state).trans h.recordPath?_eq

theorem leads (h : Using s acts s') : Leads s.surroundings acts s'.surroundings := by
  cases h with
  | looked _ => exact .single .look
  | turned h => exact h.leads
  | read h => exact h.leads.append (leads_read _)
  | stored h state => exact h.leads.append (leads_store _ state)

end Using

/-- Uses one after the other: what holds at first, with no act done, and carries over a use and its
acts, holds after all uses and of all their acts. No use changes where the partition and the record
are. -/
theorem useAll_induction {s : Storage β υ} {motive : List Act → Storage β υ → Prop}
    (start : motive [] s)
    (step : ∀ acts s' more s'', s'.partition? = s.partition? → s'.recordPath? = s.recordPath? →
      motive acts s' → Using s' more s'' → motive (acts ++ more) s'')
    (uses : List Use) : motive (s.actsAll uses) (s.useAll uses) := by
  -- the acts done so far stand before those of the uses that are left
  suffices h : ∀ acts s', s'.partition? = s.partition? → s'.recordPath? = s.recordPath? →
      motive acts s' → motive (acts ++ s'.actsAll uses) (s'.useAll uses) from h [] s rfl rfl start
  induction uses with
  | nil =>
    intro acts s' _ _ h
    rw [actsAll, List.append_nil]
    exact h
  | cons u rest ih =>
    intro acts s' hp hr h
    have hu := s'.use_using u
    rw [actsAll, ← List.append_assoc]
    exact ih _ _ (hu.partition?_eq.trans hp) (hu.recordPath?_eq.trans hr) (step _ _ _ _ hp hr h hu)

theorem partition?_useAll (s : Storage β υ) (uses : List Use) :
    (s.useAll uses).partition? = s.partition? :=
  useAll_induction (motive := fun _ s' => s'.partition? = s.partition?) rfl
    (fun _ _ _ _ hp _ _ hu => hu.partition?_eq.trans hp) uses

theorem recordPath?_useAll (s : Storage β υ) (uses : List Use) :
    (s.useAll uses).recordPath? = s.recordPath? :=
  useAll_induction (motive := fun _ s' => s'.recordPath? = s.recordPath?) rfl
    (fun _ _ _ _ _ hr _ hu => hu.recordPath?_eq.trans hr) uses

theorem leads_useAll (s : Storage β υ) (uses : List Use) :
    Leads s.surroundings (s.actsAll uses) (s.useAll uses).surroundings :=
  useAll_induction (motive := fun acts s' => Leads s.surroundings acts s'.surroundings) .nil
    (fun _ _ _ _ _ _ h hu => h.append hu.leads) uses

end Storage

end SensorLink
