import Conduit.Routing.Verbs

/-! # Verbs

The methods that have a place in a table of verbs are the verbs themselves: seven names, each of
another verb. -/

namespace Conduit

theorem Verb.verb?_method (v : Verb) : v.method.verb? = some v := by
  cases v <;> decide

theorem Verb.method_injective : Function.Injective Verb.method := by
  intro v w h
  have hverb : some v = some w := by rw [← v.verb?_method, h, w.verb?_method]
  exact Option.some.inj hverb

theorem Method.verb?_eq_some_iff {m : Method} {v : Verb} : m.verb? = some v ↔ m = v.method := by
  constructor
  · intro h
    rw [verb?] at h
    have hname : v.name = m.name := by simpa using List.find?_some h
    rw [Verb.method, hname]
  · rintro rfl
    exact v.verb?_method

namespace Routing.Verbs

variable {α : Type}

theorem getMethod?_method (t : Verbs α) (v : Verb) : t.getMethod? v.method = t.get? v := by
  rw [getMethod?, v.verb?_method, Option.bind_some]

/-- A table made for one method has a value for it if it is a verb, and no other. -/
theorem empty_setMethod (method : Method) (value : α) :
    empty.setMethod method value =
      ⟨fun verb => if method = verb.method then some value else none⟩ := by
  rw [setMethod]
  cases hverb : method.verb? with
  | none =>
      have hnone : ∀ verb : Verb, method ≠ verb.method := by
        intro verb hmethod
        rw [Method.verb?_eq_some_iff.mpr hmethod] at hverb
        cases hverb
      simp [empty, hnone]
  | some own =>
      obtain rfl := Method.verb?_eq_some_iff.mp hverb
      simp [set, empty, Verb.method_injective.eq_iff, eq_comm]

theorem length_allowed_setMethod (method : Method) (value : α) :
    (empty.setMethod method value).allowed.length = if method.verb?.isSome then 1 else 0 := by
  rw [setMethod]
  cases method.verb? with
  | none => rfl
  | some verb => cases verb <;> rfl

end Routing.Verbs

end Conduit
