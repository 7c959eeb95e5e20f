import AdmissionGate.Proofs.Json.ObjectEnd
import AdmissionGate.Proofs.Review.DecodedRequest

/-!
# Only whole bodies are accepted

A review is an object, and an object says where it ends.  So a body that has been cut off anywhere before the end of an accepted
one is refused, wherever the cut lies, and so is an accepted body with anything behind it.  White space at the end is the
exception: it may be added freely.
-/

namespace AdmissionGate.Review

open Json (BlankOctets Written IsTextOf)

theorem Holds.exists_object {body : List UInt8} {request : Request} (h : Holds body request) :
    ∃ w, IsTextOf body w ∧ w.IsObject ∧ Request.ofReview w.value = .ok request := by
  obtain ⟨w, text, held⟩ := h
  obtain ⟨members, given, -⟩ := Request.ofReview_eq_ok_iff.mp held
  obtain ⟨written, -, rfl, -⟩ := Written.exists_of_member?_value given
  exact ⟨_, text, ⟨written, rfl⟩, held⟩

theorem Holds.append_blank {body more : List UInt8} {request : Request} (h : Holds body request)
    (blank : BlankOctets more) : Holds (body ++ more) request := by
  obtain ⟨w, text, held⟩ := h
  exact ⟨w, text.append_blank blank, held⟩

/-- What has been cut off a body that holds a request, and is not only white space, leaves no text of JSON. -/
theorem Holds.not_isTextOf_front {front back : List UInt8} {request : Request} (h : Holds (front ++ back) request)
    (more : ¬ BlankOctets back) : ¬ ∃ w, IsTextOf front w := by
  rintro ⟨w, text⟩
  obtain ⟨u, whole, isObject, -⟩ := h.exists_object
  exact more (text.blankOctets_of_append whole (.inr isObject))

theorem Holds.not_isTextOf_append {body more : List UInt8} {request : Request} (h : Holds body request)
    (added : ¬ BlankOctets more) : ¬ ∃ w, IsTextOf (body ++ more) w := by
  rintro ⟨w, whole⟩
  obtain ⟨u, text, isObject, -⟩ := h.exists_object
  exact added (text.blankOctets_of_append whole (.inl isObject))

/-- Cut off or extended, an accepted body is refused, unless it is by white space; white space behind it leaves no trace. -/
theorem whole_bodies_only {body : List UInt8} {request : Request}
    (accepted : decode (some "application/json") body = .ok request) :
    (∀ front back, body = front ++ back → ¬ BlankOctets back →
      decode (some "application/json") front = .error (if front = [] then .emptyBody else .malformed)) ∧
    (∀ more, ¬ BlankOctets more → decode (some "application/json") (body ++ more) = .error .malformed) ∧
    (∀ more, BlankOctets more → decode (some "application/json") (body ++ more) = .ok request) := by
  obtain ⟨-, holds⟩ := decode_eq_ok_iff.mp accepted
  refine ⟨?_, ?_, ?_⟩
  · rintro front back rfl cut
    by_cases empty : front = []
    · rw [empty, if_pos rfl, decode_nil]
    · rw [if_neg empty, decode_of_not_isTextOf empty (holds.not_isTextOf_front cut)]
  · intro more added
    have nonempty : body ++ more ≠ [] := by
      intro empty
      rw [List.append_eq_nil_iff.mp empty |>.1, decode_nil] at accepted
      cases accepted
    exact decode_of_not_isTextOf nonempty (holds.not_isTextOf_append added)
  · intro more blank
    exact decode_eq_ok_iff.mpr ⟨rfl, holds.append_blank blank⟩

/-- A body that ends in white space: without its last brace it is refused, and with one more. -/
theorem whole_bodies_only_braces :
    let front := Text.Utf8.encode "\x7b\"request\":\x7b\"uid\":\"ü\",\"kind\":[\"g\",\"v\",\"k\"]\x7d".toList
    let back := Text.Utf8.encode "\x7d\n".toList
    (∃ request, decode (some "application/json") (front ++ back) = .ok request ∧ request.uid = "ü") ∧
      decode (some "application/json") front = .error .malformed ∧
      decode (some "application/json") (front ++ back ++ back) = .error .malformed := by
  intro front back
  have parsed : Json.parse (front ++ back) = some (.object [("request",
      .object [("kind", .array [.string "g", .string "v", .string "k"]), ("uid", .string "ü")])]) := by decide +kernel
  have nonempty : front ++ back ≠ [] ∧ front ≠ [] := by decide +kernel
  have accepted : ∃ request, decode (some "application/json") (front ++ back) = .ok request ∧ request.uid = "ü" := by
    rw [decode_json nonempty.1, parsed]
    exact ⟨_, rfl, rfl⟩
  have brace : ¬ BlankOctets back := by decide +kernel
  obtain ⟨request, decoded, uid⟩ := accepted
  obtain ⟨cut, extended, -⟩ := whole_bodies_only decoded
  refine ⟨⟨request, decoded, uid⟩, ?_, extended back brace⟩
  rw [cut front back rfl brace, if_neg nonempty.2]

end AdmissionGate.Review
