import AdmissionGate.Proofs.Json.SameValue
import AdmissionGate.Proofs.Json.ValueReading
import AdmissionGate.Review.Decoding

/-!
# A body decodes by the value that it denotes

A body of the right content type that is no text of JSON is malformed.  Any other one decodes as the value that it denotes,
so white space, escapes, the order of members and overridden members leave no trace in the request or the error.
-/

namespace AdmissionGate.Review

open Json (Written IsTextOf)

theorem decode_json {body : List UInt8} (nonempty : body ≠ []) :
    decode (some "application/json") body =
      match Json.parse body with
      | some review => Request.ofReview review
      | none => .error .malformed := by
  have accepted : ¬ some "application/json" ≠ some jsonContentType := fun h => h rfl
  rw [decode, if_neg nonempty]
  exact if_neg accepted

theorem decode_of_isTextOf {body : List UInt8} {w : Written} (nonempty : body ≠ []) (h : IsTextOf body w) :
    decode (some "application/json") body = Request.ofReview w.value := by
  have parsed : Json.parse body = some w.value := Json.parse_eq_some_iff.mpr ⟨w, h, rfl⟩
  rw [decode_json nonempty, parsed]

theorem decode_of_not_isTextOf {body : List UInt8} (nonempty : body ≠ []) (h : ¬ ∃ w, IsTextOf body w) :
    decode (some "application/json") body = .error .malformed := by
  rw [decode_json nonempty]
  cases parsed : Json.parse body with
  | none => rfl
  | some v =>
    obtain ⟨w, text, -⟩ := Json.parse_eq_some_iff.mp parsed
    exact absurd ⟨w, text⟩ h

/-- No text of JSON is empty. -/
theorem isTextOf_ne_nil {body : List UInt8} {w : Written} (h : IsTextOf body w) : body ≠ [] := by
  rintro rfl
  obtain ⟨⟨s, hs, padded⟩, -, -⟩ := h
  have empty : s = [] := by
    have := Text.Utf8.decode_eq_some_iff.mpr hs
    simpa [Text.Utf8.decode, Text.Utf8.Progress.start] using this.symm
  subst empty
  generalize hnil : ([] : List Char) = s at padded
  cases padded with
  | around _ spelled _ =>
    obtain ⟨c, t, rfl, -⟩ := spelled.head
    simp at hnil

/-- A body that is no text of JSON is malformed; one that is decodes by the value that it denotes, the last of several
    members with one name counting; so texts of alike written values decode alike. -/
theorem decode_by_value (body : List UInt8) (nonempty : body ≠ []) :
    ((¬ ∃ w, IsTextOf body w) → decode (some "application/json") body = .error .malformed) ∧
    (∀ w, IsTextOf body w → decode (some "application/json") body = Request.ofReview w.value) ∧
    (∀ members name, (Written.object members).value.member? name =
      (Json.Members.last? name members).map Written.value) ∧
    (∀ w u other, IsTextOf body w → IsTextOf other u → w.Alike u →
      decode (some "application/json") other = decode (some "application/json") body) := by
  refine ⟨decode_of_not_isTextOf nonempty, fun w => decode_of_isTextOf nonempty,
    fun members name => Written.member?_value_object name members, ?_⟩
  intro w u other hw hu alike
  rw [decode_of_isTextOf (isTextOf_ne_nil hu) hu, decode_of_isTextOf nonempty hw, alike.value_eq]

/-- An overridden member and white space leave no trace. -/
theorem decode_by_value_overridden :
    Text.Utf8.encode "\x7b\"\":0,\"\":null\x7d".toList ≠ [] ∧
    decode (some "application/json") (Text.Utf8.encode "\x7b \"\" : null \x7d".toList) =
      decode (some "application/json") (Text.Utf8.encode "\x7b\"\":0,\"\":null\x7d".toList) := by
  have nonempty : Text.Utf8.encode "\x7b\"\":0,\"\":null\x7d".toList ≠ [] := by decide +kernel
  have blank : Json.Blank [] := Json.blank_nil
  have space : Json.Blank [' '] := by simp [Json.Blank]
  have name : Json.Quotes ['"', '"'] "" := .marks .nil
  have zero : Json.SpellsLiteral ['0'] ⟨false, ['0'], none, none⟩ := .positive (.inl rfl) .absent .absent
  have finite : Json.Literal.IsFinite ⟨false, ['0'], none, none⟩ := .inl (by decide +kernel)
  have twice : IsTextOf (Text.Utf8.encode "\x7b\"\":0,\"\":null\x7d".toList)
      (.object [("", .number ⟨false, ['0'], none, none⟩), ("", .null)]) := by
    refine ⟨⟨_, rfl, .around blank (.object (.more (.pair blank name blank (.around blank (.number zero) blank))
      (.last (.pair blank name blank (.around blank .null blank))))) blank⟩, by decide, ?_⟩
    simpa [Written.IsFinite, Written.literals, Written.memberLiterals] using finite
  have once : IsTextOf (Text.Utf8.encode "\x7b \"\" : null \x7d".toList) (.object [("", .null)]) := by
    refine ⟨⟨_, rfl, .around blank (.object (.last (.pair space name space (.around space .null space)))) blank⟩,
      by decide, ?_⟩
    simp [Written.IsFinite, Written.literals, Written.memberLiterals]
  have alike : Written.Alike (.object [("", .number ⟨false, ['0'], none, none⟩), ("", .null)])
      (.object [("", .null)]) := @Written.Alike.overridden [] _ _ ⟨("", .null), by simp, rfl⟩
  exact ⟨nonempty, (decode_by_value _ nonempty).2.2.2 _ _ _ twice once alike⟩

end AdmissionGate.Review
