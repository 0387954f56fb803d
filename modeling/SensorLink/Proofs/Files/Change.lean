import SensorLink.Files.Calls

namespace SensorLink

namespace NameTree

variable {α : Type}

theorem update_update (f g : NameTree α → NameTree α) (t : NameTree α) (names : List String) :
    (t.update f names).update g names = t.update (fun t => g (f t)) names := by
  induction names generalizing t with
  | nil => rfl
  | cons name names ih =>
    have hc : (t.update f (name :: names)).child name = (t.child name).update f names :=
      child_update_self f t name names
    rw [update, hc, ih]
    simp [update, value, children, List.filter_filter]

end NameTree

namespace FileTree

@[simp] theorem throw_eq {α : Type} (e : IoError) : (throw e : Except IoError α) = .error e := rfl

@[simp] theorem set_set (t : FileTree) (loc : Location) (a b : Option Entry) :
    (t.set loc a).set loc b = t.set loc b := by
  simp only [set, NameTree.update_update]
  rfl

@[simp] theorem put_put (t : FileTree) (loc : Location) (a b : Entry) :
    (t.put loc a).put loc b = t.put loc b := t.set_set loc _ _

@[simp] theorem erase_put (t : FileTree) (loc : Location) (a : Entry) :
    (t.put loc a).erase loc = t.erase loc := t.set_set loc _ _

/-- The trees have the same entries but for some places. -/
structure AgreeOff (places : List Location) (t t' : FileTree) : Prop where
  longestPath : t'.longestPath = t.longestPath
  get? : ∀ loc ∉ places, t'.get? loc = t.get? loc

namespace AgreeOff

variable {t t' t'' : FileTree} {places : List Location}

theorem refl (places : List Location) (t : FileTree) : AgreeOff places t t :=
  ⟨rfl, fun _ _ => rfl⟩

theorem trans (h : AgreeOff places t t') (h' : AgreeOff places t' t'') : AgreeOff places t t'' :=
  ⟨h'.longestPath.trans h.longestPath, fun loc hl => (h'.get? loc hl).trans (h.get? loc hl)⟩

theorem mono {more : List Location} (h : AgreeOff places t t') (hs : places ⊆ more) :
    AgreeOff more t t' :=
  ⟨h.longestPath, fun loc hl => h.get? loc fun hm => hl (hs hm)⟩

theorem set (h : AgreeOff places t t') (loc : Location) (e : Option Entry) :
    AgreeOff places (t.set loc e) (t'.set loc e) := by
  refine ⟨h.longestPath, fun other ho => ?_⟩
  by_cases hroot : other = []
  · rw [hroot, get?_root, get?_root]
  · by_cases hl : other = loc
    · subst hl
      rw [get?_set_self _ _ hroot, get?_set_self _ _ hroot]
    · rw [get?_set_ne _ _ hl, get?_set_ne _ _ hl, h.get? other ho]

end AgreeOff

theorem agreeOff_set (t : FileTree) (loc : Location) (e : Option Entry) :
    AgreeOff [loc] t (t.set loc e) :=
  ⟨rfl, fun _ hl => t.get?_set_ne e (List.ne_of_not_mem_cons hl)⟩

theorem agreeOff_put (t : FileTree) (loc : Location) (e : Entry) :
    AgreeOff [loc] t (t.put loc e) := t.agreeOff_set loc _

theorem agreeOff_erase (t : FileTree) (loc : Location) : AgreeOff [loc] t (t.erase loc) :=
  t.agreeOff_set loc _

theorem child?_eq_ok {t : FileTree} {dir : Location} {name : String} {e : Option Entry}
    (h : t.child? dir name = .ok e) : t.get? (name :: dir) = e := by
  unfold child? at h
  split at h
  · cases h
  · exact Except.ok.inj h

theorem AgreeOff.child? {t t' : FileTree} {places : List Location} (h : AgreeOff places t t')
    {dir : Location} {name : String} (hl : name :: dir ∉ places) :
    t'.child? dir name = t.child? dir name := by
  simp only [FileTree.child?, h.get? _ hl]

theorem enter_append (t : FileTree) (dir : Location) (segments more : List String) :
    t.enter dir (segments ++ more) = (t.enter dir segments).bind fun d => t.enter d more := by
  induction segments generalizing dir with
  | nil => rfl
  | cons segment rest ih =>
    rw [List.cons_append, enter_cons, enter_cons]
    split
    · exact ih dir
    · split
      · exact ih dir.tail
      · split
        · rfl
        · rfl
        · rfl
        · exact ih (segment :: dir)

theorem enter_of_stays (t : FileTree) (dir : Location) {segments : List String}
    (h : ∀ s ∈ segments, Path.stays s = true) : t.enter dir segments = .ok dir := by
  induction segments with
  | nil => rfl
  | cons segment rest ih =>
    rw [enter_cons, if_pos (h segment (List.mem_cons_self ..))]
    exact ih fun s hs => h s (List.mem_cons_of_mem _ hs)

theorem enter_append_of_stays (t : FileTree) (dir : Location) {segments more : List String}
    (h : ∀ s ∈ more, Path.stays s = true) :
    t.enter dir (segments ++ more) = t.enter dir segments := by
  rw [enter_append]
  cases t.enter dir segments with
  | error e => rfl
  | ok d => exact t.enter_of_stays d h

theorem child?_dir {t t' : FileTree} {dir : Location} {name : String}
    (h : t'.get? (name :: dir) = some .dir) (hc : t.child? dir name = .ok (some .dir)) :
    t'.child? dir name = .ok (some .dir) := by
  unfold FileTree.child? at hc ⊢
  split at hc
  · cases hc
  · rename_i hfit
    rw [if_neg hfit, h]

/-- A walk that succeeds passes directories only, so it succeeds where these are still there. -/
theorem enter_ok_of_dirs {t t' : FileTree}
    (h : ∀ loc, t.get? loc = some .dir → t'.get? loc = some .dir) {dir d : Location}
    {segments : List String} (he : t.enter dir segments = .ok d) : t'.enter dir segments = .ok d := by
  induction segments generalizing dir with
  | nil => exact he
  | cons segment rest ih =>
    rw [enter_cons] at he ⊢
    split at he
    · rename_i hs
      rw [if_pos hs]
      exact ih he
    · rename_i hs
      rw [if_neg hs]
      split at he
      · rename_i hu
        rw [if_pos hu]
        exact ih he
      · rename_i hu
        rw [if_neg hu]
        split at he
        · cases he
        · cases he
        · cases he
        -- the segment is a name, and its directory is still there
        · rename_i hc
          rw [child?_dir (h _ (child?_eq_ok hc)) hc]
          exact ih he

theorem AgreeOff.enter_ok {t t' : FileTree} {place : Location} (h : AgreeOff [place] t t')
    (hd : t.get? place ≠ some .dir) {dir d : Location} {segments : List String}
    (he : t.enter dir segments = .ok d) : t'.enter dir segments = .ok d := by
  refine enter_ok_of_dirs (fun loc hl => ?_) he
  have hne : loc ∉ [place] := fun hm => hd (List.mem_singleton.1 hm ▸ hl)
  rw [h.get? loc hne, hl]

end FileTree

end SensorLink
