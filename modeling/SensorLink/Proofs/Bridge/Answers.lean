import SensorLink.Bridge

namespace SensorLink

namespace Resolver

theorem resolveAll_slot (r : Resolver) (responses : List Bytes) :
    (r.resolveAll responses).2.slot = r.slot.or (responses.find? fun x => !x.isEmpty) := by
  induction responses generalizing r with
  | nil => simp [resolveAll]
  | cons response rest ih =>
    rw [resolveAll, ih]
    obtain ⟨_ | x⟩ := r
    · cases response with
      | nil => rfl
      | cons b bytes => rfl
    · rfl

end Resolver

namespace SendOutcome

variable {o : SendOutcome} {x : Bytes}

theorem resolver_slot (o : SendOutcome) :
    o.resolver.slot = o.resolutions.find? fun x => !x.isEmpty := Resolver.resolveAll_slot {} _

theorem result_eq_ok :
    o.result = .ok x ↔ o.status = .ok ∧ (o.resolutions.find? fun x => !x.isEmpty) = some x := by
  rw [result, ← resolver_slot]
  cases o.status <;> cases o.resolver.slot <;> simp

theorem ne_nil_of_result (h : o.result = .ok x) : x ≠ [] := by
  have hx := List.find?_some (result_eq_ok.1 h).2
  intro he
  rw [he] at hx
  cases hx

theorem result_eq_exit : o.result = .error .exitRequested ↔ o.status = .exitLoop := by
  rw [result]
  cases o.status <;> cases o.resolver.slot <;> simp

theorem answers_of_result (h : o.result = .ok x) : o.answers = true := by
  rw [answers, h]
  rfl

theorem answers_iff : o.answers = true ↔ o.status = .ok ∧ ∃ x ∈ o.resolutions, x ≠ [] := by
  constructor
  · intro h
    cases hr : o.result with
    | error e => simp [answers, hr, Except.isOk, Except.toBool] at h
    | ok x =>
      obtain ⟨hs, hx⟩ := result_eq_ok.1 hr
      exact ⟨hs, x, List.mem_of_find?_eq_some hx, ne_nil_of_result hr⟩
  · rintro ⟨hs, x, hm, hx⟩
    cases hf : o.resolutions.find? fun x => !x.isEmpty with
    | none =>
      have hn := List.find?_eq_none.1 hf x hm
      exact absurd (by simpa using hn) hx
    | some y => exact answers_of_result (result_eq_ok.2 ⟨hs, hf⟩)

end SendOutcome

end SensorLink
