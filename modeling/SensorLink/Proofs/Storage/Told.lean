import SensorLink.Proofs.Storage.Acts

namespace SensorLink

namespace Storage

variable {β υ : Type}

/-- What a computation answers and keeps inside depends on what lies outside by the results of its
acts alone. They may be the first of a longer list. -/
def Told {α : Type} (run : Storage β υ → α × Storage β υ) (acts : Storage β υ → List Act) : Prop :=
  ∀ s s' more more', s.memory = s'.memory → acts s ++ more = acts s' ++ more' →
    more = more' ∧ (run s).1 = (run s').1 ∧ (run s).2.memory = (run s').2.memory

theorem memory_partition? (s : Storage β υ) : s.memory.partition? = s.partition? := by
  obtain ⟨backing, _ | ⟨base, _ | _, mounted⟩, files⟩ := s <;> rfl

theorem memory_isMounted (s : Storage β υ) : s.memory.isMounted = s.isMounted := by
  obtain ⟨backing, _ | ⟨base, _ | _, mounted⟩, files⟩ := s <;> rfl

namespace Told

variable {α γ : Type} {run : Storage β υ → α × Storage β υ} {acts : Storage β υ → List Act}

theorem map (h : Told run acts) (f : α → γ) : Told (fun s => (f (run s).1, (run s).2)) acts := by
  intro s s' more more' hm ha
  obtain ⟨hmore, hresult, hmemory⟩ := h s s' more more' hm ha
  exact ⟨hmore, congrArg f hresult, hmemory⟩

theorem congr {run' : Storage β υ → α × Storage β υ} (h : Told run acts) (hr : ∀ s, run' s = run s) :
    Told run' acts :=
  (funext hr : run' = run) ▸ h

end Told

section Driver

variable [MountBackend β]

theorem Turning.congr {on : Bool} {s s' r r' : Storage β υ} {acts acts' more more' : List Act}
    {result result' : Except PersistenceError Unit} (h : Turning on s acts result r)
    (h' : Turning on s' acts' result' r') (hm : s.memory = s'.memory)
    (ha : acts ++ more = acts' ++ more') :
    more = more' ∧ result = result' ∧ r.memory = r'.memory := by
  have hp : s.partition? = s'.partition? := by rw [← memory_partition?, hm, memory_partition?]
  have hi : s.isMounted = s'.isMounted := by rw [← memory_isMounted, hm, memory_isMounted]
  -- the flags agree, so both turns call the driver or neither does
  cases h with
  | idle hs =>
    cases h' with
    | idle _ => exact ⟨ha, rfl, hm⟩
    | driven _ =>
      have hon : (!on) = on := hi.symm.trans (hs (by rw [hp]; exact Option.some_ne_none _))
      exact ((Bool.not_eq_self on).1 hon).elim
  | driven _ =>
    cases h' with
    | idle hs =>
      have hon : (!on) = on := hi.trans (hs (by rw [← hp]; exact Option.some_ne_none _))
      exact ((Bool.not_eq_self on).1 hon).elim
    | driven _ =>
      obtain ⟨hact, hmore⟩ := List.cons.inj ha
      cases hact
      exact ⟨hmore, rfl, congrArg (Storage.mk · _ _) (congrArg Storage.backing hm)⟩

theorem told_turn (on : Bool) : Told (β := β) (υ := υ) (turn on) (turnActs on) :=
  fun s s' _ _ hm ha => (s.turning on).congr (s'.turning on) hm ha

end Driver

section Backing

theorem told_held : Told (β := β) (υ := υ) (fun s => (s.held, s)) readActs := by
  rintro ⟨backing, mountPoint, files⟩ ⟨backing', mountPoint', files'⟩ more more' hm ha
  have hb := congrArg Storage.backing hm
  cases backing <;> cases backing' <;> cases hb
  · obtain ⟨hact, hmore⟩ := List.cons.inj ha
    exact ⟨hmore, (Act.read.inj hact).2, hm⟩
  · exact ⟨ha, rfl, hm⟩

theorem told_store [StateRecorder υ] (state : Bytes) :
    Told (β := β) (υ := υ) (store · state) (storeActs · state) := by
  rintro ⟨backing, mountPoint, files⟩ ⟨backing', mountPoint', files'⟩ more more' hm ha
  have hb := congrArg Storage.backing hm
  have hp := congrArg Storage.mountPoint hm
  cases backing <;> cases backing' <;> cases hb <;> obtain ⟨hact, hmore⟩ := List.cons.inj ha
  · exact ⟨hmore, (Act.write.inj hact).2.2, hm⟩
  · rename_i recorder latest recorder'
    have hu : (StateRecorder.update recorder state).1 = (StateRecorder.update recorder' state).1 :=
      (Act.update.inj hact).2
    simp only [store]
    rcases hr : StateRecorder.update recorder state with ⟨accepted, _⟩
    rcases hr' : StateRecorder.update recorder' state with ⟨accepted', _⟩
    rw [hr, hr'] at hu
    obtain rfl : accepted = accepted' := hu
    cases accepted <;> exact ⟨hmore, rfl, congrArg (Storage.mk _ · _) hp⟩

end Backing

section Uses

variable [MountBackend β]

theorem Told.onceMounted {α : Type} {run : Storage β υ → Except PersistenceError α × Storage β υ}
    {acts : Storage β υ → List Act} (h : Told run acts) :
    Told (Storage.onceMounted · run) (mountedActs · acts) := by
  intro s s' more more' hm ha
  simp only [mountedActs, List.append_assoc] at ha
  obtain ⟨hrest, hresult, hmemory⟩ := told_turn true s s' _ _ hm ha
  simp only [turn_true] at hresult hmemory
  simp only [Storage.onceMounted]
  rcases hs : s.ensureMounted with ⟨result, r⟩
  rcases hs' : s'.ensureMounted with ⟨result', r'⟩
  rw [hs, hs'] at hrest hresult hmemory
  obtain rfl : result = result' := hresult
  rcases result with e | ⟨⟩
  · exact ⟨hrest, rfl, hmemory⟩
  · exact h r r' more more' hmemory hrest

theorem told_load : Told (β := β) (υ := υ) load (mountedActs · readActs) :=
  told_held.onceMounted.congr load_onceMounted

variable [StateRecorder υ]

theorem told_tryPersist (state : Bytes) :
    Told (β := β) (υ := υ) (tryPersist · state) (mountedActs · (storeActs · state)) :=
  (told_store state).onceMounted.congr (tryPersist_onceMounted state)

theorem told_prepare : Told (β := β) (υ := υ) prepare (acts · .prepare) := by
  intro s s' more more' hm ha
  have hmount := told_turn true s s' more more' hm
  obtain ⟨backing, mountPoint, files⟩ := s
  obtain ⟨backing', mountPoint', files'⟩ := s'
  have hb := congrArg Storage.backing hm
  have hp := congrArg Storage.mountPoint hm
  rcases mountPoint with _ | ⟨base, _ | _, mounted⟩ <;>
    rcases mountPoint' with _ | ⟨base', _ | _, mounted'⟩ <;> cases hp
  · exact hmount ha
  · exact hmount ha
  · cases backing <;> cases backing' <;> cases hb
    · obtain ⟨hact, hmore⟩ := List.cons.inj ha
      have hfound : files.isDir base = files'.isDir base := (Act.look.inj hact).2
      simp only [prepare, hfound]
      split <;> exact ⟨hmore, rfl, hm⟩
    · exact hmount ha

theorem told_use (u : Use) : Told (β := β) (υ := υ) (use · u) (acts · u) := by
  cases u with
  | prepare => exact told_prepare.map Answer.done
  | release => exact (told_turn false).map Answer.done
  | isInitialized =>
    refine (told_load.map fun
      | .ok state => Answer.found state.isSome
      | .error _ => .found false).congr fun s => ?_
    simp only [use, isInitialized]
    rcases s.load with ⟨e | state, s'⟩ <;> rfl
  | load => exact told_load.map Answer.state
  | tryPersist state => exact (told_tryPersist state).map Answer.done
  | persist state => exact ((told_tryPersist state).map Except.isOk).map Answer.found
  | clear => exact ((told_tryPersist []).map Except.isOk).map Answer.found

def answers (s : Storage β υ) : List Use → List Answer
  | [] => []
  | u :: rest => (s.use u).1 :: (s.use u).2.answers rest

/-- Storages that keep the same inside answer alike as long as their acts have the same results. -/
theorem told_useAll (uses : List Use) :
    Told (β := β) (υ := υ) (fun s => (s.answers uses, s.useAll uses)) (actsAll · uses) := by
  induction uses with
  | nil => exact fun _ _ _ _ hm ha => ⟨ha, rfl, hm⟩
  | cons u rest ih =>
    intro s s' more more' hm ha
    simp only [actsAll, List.append_assoc] at ha
    obtain ⟨hrest, hanswer, hmemory⟩ := told_use u s s' _ _ hm ha
    obtain ⟨hmore, hanswers, hlast⟩ := ih _ _ _ _ hmemory hrest
    exact ⟨hmore, List.cons_eq_cons.2 ⟨hanswer, hanswers⟩, hlast⟩

end Uses

end Storage

end SensorLink
