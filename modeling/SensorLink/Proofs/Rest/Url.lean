import Mathlib.Data.List.DropRight
import SensorLink.Proofs.DevEui.Display
import SensorLink.Rest

namespace SensorLink

namespace Text

/-- What stands before the last occurrence of a mark in a text. -/
structure BeforeLast (mark text before : List Char) : Prop where
  occurs : ∃ after, text = before ++ (mark ++ after)
  last : ∀ before' after, text = before' ++ (mark ++ after) → before'.length ≤ before.length

variable {mark text base after before before' : List Char} {c : Char}

theorem BeforeLast.unique (h : BeforeLast mark text before) (h' : BeforeLast mark text before') :
    before = before' := by
  obtain ⟨after, hafter⟩ := h.occurs
  obtain ⟨after', hafter'⟩ := h'.occurs
  have hlen : before.length = before'.length :=
    Nat.le_antisymm (h'.last before after hafter) (h.last before' after' hafter')
  exact (List.append_inj (hafter.symm.trans hafter') hlen).1

/-- A mark does not begin again where too few of one of its characters are left. -/
theorem beforeLast_of_count (c : Char) (h : ((mark ++ after).drop 1).count c < mark.count c) :
    BeforeLast mark (base ++ (mark ++ after)) base where
  occurs := ⟨after, rfl⟩
  last before' after' heq := by
    -- the gap between the two occurrences takes at least the first character of the mark
    rcases List.append_eq_append_iff.1 heq with ⟨gap, rfl, hgap⟩ | ⟨gap, rfl, -⟩
    · cases gap with
      | nil => simp
      | cons d gap =>
        rw [hgap, List.cons_append, List.drop_one, List.tail_cons] at h
        simp only [List.count_append] at h
        omega
    · simp

theorem rtakeWhile_append (before : List Char) (h : c ∉ after) :
    (before ++ (c :: after)).rtakeWhile (· ≠ c) = after := by
  have hall : ∀ d ∈ after.reverse, decide (d ≠ c) = true := by
    intro d hd
    rw [decide_eq_true_iff]
    rintro rfl
    exact h (List.mem_reverse.1 hd)
  rw [List.rtakeWhile, List.reverse_append, List.reverse_cons, List.append_assoc,
    List.takeWhile_append_of_pos hall]
  simp

end Text

namespace RestClient

variable {c : Char} {r r₁ r₂ : RestClient} {e e₁ e₂ : DevEui}

theorem toList_requestUrl (r : RestClient) (e : DevEui) : (r.requestUrl e).toList =
    r.base.toList ++ (requestPath.toList ++ ("?deveui=".toList ++ e.display.toList)) := by
  simp only [requestUrl, String.toList_append, List.append_assoc]

theorem not_mem_display (h : c ∉ Text.hexAlphabet) : c ∉ e.display.toList :=
  fun hmem => h (DevEui.mem_hexAlphabet_of_mem_display hmem)

theorem rtakeWhile_requestUrl (r : RestClient) (e : DevEui) :
    (r.requestUrl e).toList.rtakeWhile (· ≠ '=') = e.display.toList := by
  have hsplit : (r.requestUrl e).toList =
      (r.base.toList ++ (requestPath.toList ++ "?deveui".toList)) ++ ('=' :: e.display.toList) := by
    have hmark : "?deveui=".toList = "?deveui".toList ++ ['='] := by decide
    rw [toList_requestUrl, hmark]
    simp only [List.append_assoc, List.cons_append, List.nil_append]
  rw [hsplit]
  exact Text.rtakeWhile_append _ (not_mem_display (by decide))

theorem requestUrl_inj : r₁.requestUrl e₁ = r₂.requestUrl e₂ ↔ e₁ = e₂ ∧ r₁ = r₂ := by
  constructor
  · intro h
    have hdevice : e₁ = e₂ := by
      apply DevEui.display_inj
      apply String.toList_injective
      rw [← rtakeWhile_requestUrl r₁, h, rtakeWhile_requestUrl]
    subst hdevice
    have hurl := congrArg String.toList h
    rw [toList_requestUrl, toList_requestUrl, List.append_left_inj] at hurl
    refine ⟨rfl, ?_⟩
    cases r₁
    cases r₂
    exact congrArg RestClient.mk (String.toList_injective hurl)
  · rintro ⟨rfl, rfl⟩
    rfl

/-- The base stands before the last occurrence of the request path: behind that path there is no slash,
and in it there are two. -/
theorem beforeLast_requestUrl (r : RestClient) (e : DevEui) :
    Text.BeforeLast requestPath.toList (r.requestUrl e).toList r.base.toList := by
  rw [toList_requestUrl]
  apply Text.beforeLast_of_count '/'
  have hnone : e.display.toList.count '/' = 0 := List.count_eq_zero.2 (not_mem_display (by decide))
  have hdrop : (requestPath.toList ++ ("?deveui=".toList ++ e.display.toList)).drop 1 =
      (requestPath.toList ++ "?deveui=".toList).drop 1 ++ e.display.toList := by
    rw [← List.append_assoc]
    exact List.drop_append_of_le_length (by decide)
  rw [hdrop, List.count_append, hnone]
  decide

theorem toList_base (url : String) : (ofUrl url).base.toList = url.toList.rdropWhile (· = '/') :=
  String.toList_ofList

theorem ofUrl_eq_iff (url₁ url₂ : String) : ofUrl url₁ = ofUrl url₂ ↔
    url₁.toList.rdropWhile (· = '/') = url₂.toList.rdropWhile (· = '/') := by
  rw [← toList_base, ← toList_base, String.toList_inj, ofUrl, ofUrl, RestClient.mk.injEq]

theorem ofUrl_base (url : String) : ofUrl (ofUrl url).base = ofUrl url := by
  rw [ofUrl_eq_iff, toList_base, List.rdropWhile_idempotent]

theorem getLast?_base_ne_slash (url : String) : (ofUrl url).base.toList.getLast? ≠ some '/' := by
  rw [toList_base]
  intro h
  have hne : url.toList.rdropWhile (· = '/') ≠ [] := by
    intro hnil
    rw [hnil] at h
    cases h
  rw [List.getLast?_eq_getLast_of_ne_nil hne] at h
  exact List.rdropWhile_last_not _ _ hne (decide_eq_true (Option.some.inj h))

/-- Two request URLs are equal exactly if the devices are and the base URLs are but for slashes at their
ends. Behind the last equals sign a URL spells the device, and before the last request path it gives back
the base, which no slash ends and which is its own base. -/
theorem url_identifies (url₁ url₂ : String) (e₁ e₂ : DevEui) :
    let url := (ofUrl url₁).requestUrl e₁
    (url = (ofUrl url₂).requestUrl e₂ ↔
      e₁ = e₂ ∧ url₁.toList.rdropWhile (· = '/') = url₂.toList.rdropWhile (· = '/')) ∧
    DevEui.parse (String.ofList (url.toList.rtakeWhile (· ≠ '='))) = .ok e₁ ∧
    (∀ before, Text.BeforeLast requestPath.toList url.toList before ↔
      before = (ofUrl url₁).base.toList) ∧
    (ofUrl url₁).base.toList.getLast? ≠ some '/' ∧
    ofUrl (ofUrl url₁).base = ofUrl url₁ := by
  intro url
  refine ⟨?_, ?_, ?_, getLast?_base_ne_slash url₁, ofUrl_base url₁⟩
  · rw [requestUrl_inj, ofUrl_eq_iff]
  · rw [rtakeWhile_requestUrl, String.ofList_toList]
    exact e₁.parse_display
  · intro before
    have hbase := beforeLast_requestUrl (ofUrl url₁) e₁
    constructor
    · intro h
      exact h.unique hbase
    · rintro rfl
      exact hbase

end RestClient

end SensorLink
