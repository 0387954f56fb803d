
namespace SensorLink

inductive NameTree (α : Type) where
  | node (value : Option α) (children : List (String × NameTree α))

namespace NameTree

variable {α : Type}

def empty : NameTree α := .node none []

def value : NameTree α → Option α
  | .node value _ => value

def children : NameTree α → List (String × NameTree α)
  | .node _ children => children

def child (t : NameTree α) (name : String) : NameTree α := (t.children.lookup name).getD empty

def descend (t : NameTree α) : List String → NameTree α
  | [] => t
  | name :: names => (t.child name).descend names

def get? (t : NameTree α) (names : List String) : Option α := (t.descend names).value

def update (f : NameTree α → NameTree α) (t : NameTree α) : List String → NameTree α
  | [] => f t
  | name :: names =>
    .node t.value ((name, (t.child name).update f names) :: t.children.filter fun c => c.1 ≠ name)

def setValue (value : Option α) (t : NameTree α) : NameTree α := .node value t.children

theorem descend_append (t : NameTree α) (names more : List String) :
    t.descend (names ++ more) = (t.descend names).descend more := by
  induction names generalizing t with
  | nil => rfl
  | cons name names ih => exact ih (t.child name)

mutual

/-- All values with their names; `above` holds the names on the way, last first. -/
def toList (above : List String) : NameTree α → List (List String × α)
  | .node value children =>
    (value.map fun a => (above.reverse, a)).toList ++ childrenToList above children

def childrenToList (above : List String) : List (String × NameTree α) → List (List String × α)
  | [] => []
  | (name, t) :: rest => toList (name :: above) t ++ childrenToList above rest

end

theorem lookup_filter_ne {β : Type} (l : List (String × β)) {a b : String} (h : a ≠ b) :
    (l.filter fun e => e.1 ≠ b).lookup a = l.lookup a := by
  induction l with
  | nil => rfl
  | cons e rest ih =>
    obtain ⟨k, v⟩ := e
    by_cases hk : k = b
    · subst hk
      have hb : (a == k) = false := beq_false_of_ne h
      simpa [List.lookup_cons, hb] using ih
    · simp only [hk, ne_eq, not_false_eq_true, decide_true, List.filter_cons_of_pos,
        List.lookup_cons, ih]

theorem child_update_self (f : NameTree α → NameTree α) (t : NameTree α) (name : String)
    (names : List String) : (t.update f (name :: names)).child name = (t.child name).update f names := by
  simp [child, update, children]

theorem child_update_ne (f : NameTree α → NameTree α) (t : NameTree α) {name other : String}
    (names : List String) (h : other ≠ name) :
    (t.update f (name :: names)).child other = t.child other := by
  have hb : (other == name) = false := beq_false_of_ne h
  simp only [child, update, children, List.lookup_cons, hb]
  rw [lookup_filter_ne _ h]

@[simp] theorem descend_update_self (f : NameTree α → NameTree α) (t : NameTree α)
    (names : List String) : (t.update f names).descend names = f (t.descend names) := by
  induction names generalizing t with
  | nil => rfl
  | cons name names ih => rw [descend, child_update_self, ih, descend]

theorem get?_setValue_self (t : NameTree α) (names : List String) (value : Option α) :
    (t.update (setValue value) names).get? names = value := by
  simp [get?, setValue, NameTree.value]

theorem get?_setValue_ne (t : NameTree α) {names others : List String} (value : Option α)
    (h : others ≠ names) : (t.update (setValue value) names).get? others = t.get? others := by
  induction names generalizing t others with
  | nil =>
    cases others with
    | nil => exact absurd rfl h
    | cons other others => rfl
  | cons name names ih =>
    cases others with
    | nil => rfl
    | cons other others =>
      by_cases ho : other = name
      · subst ho
        have hn : others ≠ names := fun e => h (by rw [e])
        simp only [get?, descend, child_update_self]
        exact ih (t.child other) hn
      · simp only [get?, descend, child_update_ne _ _ _ ho]

end NameTree

end SensorLink
