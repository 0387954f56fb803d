import SensorLink.Text.Blank

namespace SensorLink.Text

variable {a b : Char} {lead body trail s : List Char}

theorem dropWhile_split (p : Char → Bool) (s : List Char) :
    ∃ front, (∀ c ∈ front, p c = true) ∧ s = front ++ s.dropWhile p := by
  have hall : (s.takeWhile p).all p = true := List.all_takeWhile
  exact ⟨s.takeWhile p, List.all_eq_true.1 hall, List.takeWhile_append_dropWhile.symm⟩

theorem exists_trim (s : List Char) :
    ∃ lead trail, (∀ c ∈ lead, isBlank c = true) ∧ (∀ c ∈ trail, isBlank c = true) ∧
      s = lead ++ (trim s ++ trail) := by
  obtain ⟨lead, hlead, hs⟩ := dropWhile_split isBlank s
  obtain ⟨back, hback, hrest⟩ := dropWhile_split isBlank (trimStart s).reverse
  refine ⟨lead, back.reverse, hlead, fun c hc => hback c (List.mem_reverse.1 hc), ?_⟩
  have hmiddle : trimStart s = trim s ++ back.reverse := by
    have := congrArg List.reverse hrest
    rwa [List.reverse_reverse, List.reverse_append] at this
  rw [← hmiddle]
  exact hs

theorem dropWhile_of_not {p : Char → Bool} (h : ∀ c ∈ s, p c = false) : s.dropWhile p = s := by
  cases s with
  | nil => rfl
  | cons c rest => exact List.dropWhile_cons_of_neg (by simp [h c List.mem_cons_self])

theorem trim_of_blanks (hlead : ∀ c ∈ lead, isBlank c = true) (hbody : ∀ c ∈ body, isBlank c = false)
    (hne : body ≠ []) (htrail : ∀ c ∈ trail, isBlank c = true) :
    trim (lead ++ (body ++ trail)) = body := by
  have hstart : trimStart (lead ++ (body ++ trail)) = body ++ trail := by
    obtain ⟨c, rest, rfl⟩ := List.exists_cons_of_ne_nil hne
    rw [trimStart, List.dropWhile_append_of_pos hlead]
    exact List.dropWhile_cons_of_neg (by simp [hbody c List.mem_cons_self])
  rw [trim, hstart, trimEnd, List.reverse_append,
    List.dropWhile_append_of_pos fun c hc => htrail c (List.mem_reverse.1 hc),
    dropWhile_of_not fun c hc => hbody c (List.mem_reverse.1 hc), List.reverse_reverse]

theorem count_of_blanks {c : Char} (h : ∀ c ∈ s, isBlank c = true) (hc : isBlank c = false) :
    s.count c = 0 := by
  rw [List.count_eq_zero]
  intro hmem
  rw [h c hmem] at hc
  cases hc

def pairs (a b : Char) (n : Nat) : List Char := (List.replicate n [a, b]).flatten

theorem mem_pairs {c : Char} {n : Nat} (h : c ∈ pairs a b n) : c = a ∨ c = b := by
  obtain ⟨l, hl, hc⟩ := List.mem_flatten.1 h
  rw [List.eq_of_mem_replicate hl] at hc
  simpa using hc

theorem pairs_succ (a b : Char) (n : Nat) : pairs a b (n + 1) = a :: b :: pairs a b n := rfl

theorem count_pairs (a b c : Char) (n : Nat) : (pairs a b n).count c = n * [a, b].count c := by
  induction n with
  | zero => simp [pairs]
  | succ n ih =>
    have hsplit : pairs a b (n + 1) = [a, b] ++ pairs a b n := rfl
    rw [hsplit, List.count_append, ih, Nat.succ_mul, Nat.add_comm]

theorem exists_dropPairs (a b : Char) (s : List Char) : ∃ n, s = pairs a b n ++ dropPairs a b s := by
  induction s using dropPairs.induct a b with
  | case1 c d rest hpair ih =>
    obtain ⟨n, hn⟩ := ih
    refine ⟨n + 1, ?_⟩
    rw [dropPairs, if_pos hpair, pairs_succ, List.cons_append, List.cons_append, ← hn, hpair.1, hpair.2]
  | case2 c d rest hne =>
    refine ⟨0, ?_⟩
    rw [dropPairs, if_neg hne]
    rfl
  | case3 s hshort =>
    refine ⟨0, ?_⟩
    rw [dropPairs]
    · rfl
    · exact hshort

theorem dropPairs_of_not_mem (h : b ∉ s) : dropPairs a b s = s := by
  obtain ⟨n, hn⟩ := exists_dropPairs a b s
  cases n with
  | zero => exact hn.symm
  | succ n =>
    refine absurd ?_ h
    rw [hn, pairs_succ]
    exact List.mem_append_left _ (List.mem_cons_of_mem _ List.mem_cons_self)

theorem dropPairs_pairs_append (n : Nat) (h : b ∉ s) : dropPairs a b (pairs a b n ++ s) = s := by
  induction n with
  | zero => exact dropPairs_of_not_mem h
  | succ n ih =>
    rw [pairs_succ, List.cons_append, List.cons_append, dropPairs, if_pos ⟨rfl, rfl⟩]
    exact ih

end SensorLink.Text
