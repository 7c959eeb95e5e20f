import Mathlib
import AdmissionGate.Text.Utf8

/-!
# Octets spell at most one text

`decode` is the inverse of `encode`: some octets decode to a text exactly if they are its UTF-8 form.  One half reads each
character back from its octets.  The other half looks at the octet that opens a character, one case for each length, and
takes off the octets that it announces.
-/

namespace AdmissionGate.Text.Utf8

/-! ### One octet -/

theorem toNat_ofNat_of_valid {n : Nat} (h : n.isValidChar) : (Char.ofNat n).toNat = n := by
  rw [Char.toNat_ofNat, if_pos h]

theorem toNat_ofNat_octet {n : Nat} (h : n < 256) : (UInt8.ofNat n).toNat = n :=
  UInt8.toNat_ofNat_of_lt' h

theorem tail_le {m : Nat} (h : m < 64) : m + 0x80 ≤ (0xbf : UInt8).toNat := by
  simp only [UInt8.reduceToNat]
  omega

theorem step_ascii (done : List Char) {n : Nat} (h : n < 0x80) :
    Progress.step ⟨done, none⟩ (UInt8.ofNat n) = some ⟨Char.ofNat n :: done, none⟩ := by
  have hn : (UInt8.ofNat n).toNat = n := toNat_ofNat_octet (by omega)
  have low : UInt8.ofNat n < 0x80 := by
    rw [UInt8.lt_iff_toNat_lt, hn]
    exact h
  simp only [Progress.step, if_pos low, hn]

/-- What an octet announces, told by its value. -/
theorem ofLeading_ofNat {n : Nat} (h : n < 256) :
    Pending.ofLeading (UInt8.ofNat n) =
      if 0xc2 ≤ n ∧ n ≤ 0xdf then some ⟨n - 0xc0, 1, 0x80, 0xbf⟩
      else if n = 0xe0 then some ⟨0, 2, 0xa0, 0xbf⟩
      else if n = 0xed then some ⟨0xd, 2, 0x80, 0x9f⟩
      else if 0xe1 ≤ n ∧ n ≤ 0xef then some ⟨n - 0xe0, 2, 0x80, 0xbf⟩
      else if n = 0xf0 then some ⟨0, 3, 0x90, 0xbf⟩
      else if 0xf1 ≤ n ∧ n ≤ 0xf3 then some ⟨n - 0xf0, 3, 0x80, 0xbf⟩
      else if n = 0xf4 then some ⟨4, 3, 0x80, 0x8f⟩
      else none := by
  simp only [Pending.ofLeading, UInt8.le_iff_toNat_le, ← UInt8.toNat_inj, toNat_ofNat_octet h, UInt8.reduceToNat]

/-- An octet from 0xC2 to 0xDF opens a character of two octets. -/
theorem ofLeading_two (n : Nat) (h : n < 256) (low : 0xc2 ≤ n) (high : n ≤ 0xdf) :
    Pending.ofLeading (UInt8.ofNat n) = some ⟨n - 0xc0, 1, 0x80, 0xbf⟩ := by
  rw [ofLeading_ofNat h, if_pos ⟨low, high⟩]

/-- An octet from 0xE0 to 0xEF opens a character of three octets; the second one keeps out overlong forms and surrogates. -/
theorem ofLeading_three (n : Nat) (h : n < 256) (low : 0xe0 ≤ n) (high : n ≤ 0xef) :
    Pending.ofLeading (UInt8.ofNat n) =
      some ⟨n - 0xe0, 2, if n = 0xe0 then 0xa0 else 0x80, if n = 0xed then 0x9f else 0xbf⟩ := by
  have notTwo : ¬ (0xc2 ≤ n ∧ n ≤ 0xdf) := by omega
  rw [ofLeading_ofNat h, if_neg notTwo]
  by_cases overlong : n = 0xe0
  · subst overlong
    rfl
  · by_cases surrogate : n = 0xed
    · subst surrogate
      rfl
    · have plain : 0xe1 ≤ n ∧ n ≤ 0xef := by omega
      rw [if_neg overlong, if_neg surrogate, if_pos plain, if_neg overlong, if_neg surrogate]

/-- An octet from 0xF0 to 0xF4 opens a character of four octets; the second one keeps out overlong forms and what lies above
    the last code point. -/
theorem ofLeading_four (n : Nat) (h : n < 256) (low : 0xf0 ≤ n) (high : n ≤ 0xf4) :
    Pending.ofLeading (UInt8.ofNat n) =
      some ⟨n - 0xf0, 3, if n = 0xf0 then 0x90 else 0x80, if n = 0xf4 then 0x8f else 0xbf⟩ := by
  have notTwo : ¬ (0xc2 ≤ n ∧ n ≤ 0xdf) := by omega
  have notThree : ¬ n = 0xe0 ∧ ¬ n = 0xed ∧ ¬ (0xe1 ≤ n ∧ n ≤ 0xef) := by omega
  rw [ofLeading_ofNat h, if_neg notTwo, if_neg notThree.1, if_neg notThree.2.1, if_neg notThree.2.2]
  by_cases overlong : n = 0xf0
  · subst overlong
    rfl
  · by_cases last : n = 0xf4
    · subst last
      rfl
    · have plain : 0xf1 ≤ n ∧ n ≤ 0xf3 := by omega
      rw [if_neg overlong, if_pos plain, if_neg overlong, if_neg last]

/-- No other octet opens a character of several octets. -/
theorem ofLeading_isSome (n : Nat) (h : n < 256) (opens : (Pending.ofLeading (UInt8.ofNat n)).isSome) :
    (0xc2 ≤ n ∧ n ≤ 0xdf) ∨ (0xe0 ≤ n ∧ n ≤ 0xef) ∨ (0xf0 ≤ n ∧ n ≤ 0xf4) := by
  rw [ofLeading_ofNat h] at opens
  by_contra none
  have others : ¬ (0xc2 ≤ n ∧ n ≤ 0xdf) ∧ ¬ n = 0xe0 ∧ ¬ n = 0xed ∧ ¬ (0xe1 ≤ n ∧ n ≤ 0xef) ∧ ¬ n = 0xf0 ∧
      ¬ (0xf1 ≤ n ∧ n ≤ 0xf3) ∧ ¬ n = 0xf4 := by omega
  simp [others] at opens

theorem step_leading (done : List Char) {n : Nat} (h : 0x80 ≤ n ∧ n < 256) :
    Progress.step ⟨done, none⟩ (UInt8.ofNat n) =
      (Pending.ofLeading (UInt8.ofNat n)).map fun q => ⟨done, some q⟩ := by
  have hn : (UInt8.ofNat n).toNat = n := toNat_ofNat_octet h.2
  have high : ¬ UInt8.ofNat n < 0x80 := by
    rw [UInt8.lt_iff_toNat_lt, hn]
    exact Nat.not_lt.mpr h.1
  simp only [Progress.step, if_neg high]

/-- An octet within the bounds continues the open character by six bits. -/
theorem step_more (done : List Char) {value owed m : Nat} {low high : UInt8} (hm : m < 64)
    (hlow : low.toNat ≤ m + 0x80) (hhigh : m + 0x80 ≤ high.toNat) :
    Progress.step ⟨done, some ⟨value, owed + 2, low, high⟩⟩ (UInt8.ofNat (m + 0x80)) =
      some ⟨done, some ⟨value * 64 + m, owed + 1, 0x80, 0xbf⟩⟩ := by
  have hn : (UInt8.ofNat (m + 0x80)).toNat = m + 0x80 := toNat_ofNat_octet (by omega)
  have within : low ≤ UInt8.ofNat (m + 0x80) ∧ UInt8.ofNat (m + 0x80) ≤ high := by
    rw [UInt8.le_iff_toNat_le, UInt8.le_iff_toNat_le, hn]
    exact ⟨hlow, hhigh⟩
  have notLast : ¬ owed + 2 ≤ 1 := by omega
  simp only [Progress.step, if_pos within, if_neg notLast, hn, Nat.add_sub_cancel]
  rfl

/-- The last octet closes the open character. -/
theorem step_last (done : List Char) {value m : Nat} {low high : UInt8} (hm : m < 64)
    (hlow : low.toNat ≤ m + 0x80) (hhigh : m + 0x80 ≤ high.toNat) :
    Progress.step ⟨done, some ⟨value, 1, low, high⟩⟩ (UInt8.ofNat (m + 0x80)) =
      some ⟨Char.ofNat (value * 64 + m) :: done, none⟩ := by
  have hn : (UInt8.ofNat (m + 0x80)).toNat = m + 0x80 := toNat_ofNat_octet (by omega)
  have within : low ≤ UInt8.ofNat (m + 0x80) ∧ UInt8.ofNat (m + 0x80) ≤ high := by
    rw [UInt8.le_iff_toNat_le, UInt8.le_iff_toNat_le, hn]
    exact ⟨hlow, hhigh⟩
  simp only [Progress.step, if_pos within, hn, Nat.add_sub_cancel]
  rfl

/-! ### Reading a character back from its octets -/

theorem foldlM_encodeChar (c : Char) (done : List Char) :
    (String.utf8EncodeChar c).foldlM Progress.step ⟨done, none⟩ = some ⟨c :: done, none⟩ := by
  have valid : c.toNat.isValidChar := c.valid
  have hc : Char.ofNat c.toNat = c := Char.ofNat_toNat c
  have hv : c.val.toNat = c.toNat := rfl
  rw [String.utf8EncodeChar.eq_1, hv]
  generalize c.toNat = v at valid hc
  subst hc
  -- one case for each number of octets; from three on the first octet narrows what the second may be
  split
  · rw [List.foldlM_cons, step_ascii done (by omega)]
    rfl
  split
  · have value : (v / 64 % 32 + 192 - 192) * 64 + v % 64 = v := by omega
    rw [List.foldlM_cons, step_leading done (by omega), ofLeading_two _ (by omega) (by omega) (by omega)]
    simp only [Option.map_some, Option.bind_eq_bind, Option.bind_some, List.foldlM_cons, List.foldlM_nil]
    rw [step_last done (by omega) (Nat.le_add_left _ _) (tail_le (by omega)), value]
    rfl
  split
  · have value : ((v / 4096 % 16 + 224 - 224) * 64 + v / 64 % 64) * 64 + v % 64 = v := by omega
    have low : (if v / 4096 % 16 + 224 = 0xe0 then 0xa0 else 0x80 : UInt8).toNat ≤ v / 64 % 64 + 0x80 := by
      split
      · simp only [UInt8.reduceToNat]
        omega
      · exact Nat.le_add_left _ _
    have high : v / 64 % 64 + 0x80 ≤ (if v / 4096 % 16 + 224 = 0xed then 0x9f else 0xbf : UInt8).toNat := by
      split
      · simp only [UInt8.reduceToNat]
        omega
      · exact tail_le (by omega)
    rw [List.foldlM_cons, step_leading done (by omega), ofLeading_three _ (by omega) (by omega) (by omega)]
    simp only [Option.map_some, Option.bind_eq_bind, Option.bind_some, List.foldlM_cons, List.foldlM_nil]
    rw [step_more done (by omega) low high, Option.bind_some,
      step_last done (by omega) (Nat.le_add_left _ _) (tail_le (by omega)), value]
    rfl
  · have value : (((v / 262144 % 8 + 240 - 240) * 64 + v / 4096 % 64) * 64 + v / 64 % 64) * 64 + v % 64 = v := by
      omega
    have low : (if v / 262144 % 8 + 240 = 0xf0 then 0x90 else 0x80 : UInt8).toNat ≤ v / 4096 % 64 + 0x80 := by
      split
      · simp only [UInt8.reduceToNat]
        omega
      · exact Nat.le_add_left _ _
    have high : v / 4096 % 64 + 0x80 ≤ (if v / 262144 % 8 + 240 = 0xf4 then 0x8f else 0xbf : UInt8).toNat := by
      split
      · simp only [UInt8.reduceToNat]
        omega
      · exact tail_le (by omega)
    rw [List.foldlM_cons, step_leading done (by omega), ofLeading_four _ (by omega) (by omega) (by omega)]
    simp only [Option.map_some, Option.bind_eq_bind, Option.bind_some, List.foldlM_cons, List.foldlM_nil]
    rw [step_more done (by omega) low high, Option.bind_some,
      step_more done (by omega) (Nat.le_add_left _ _) (tail_le (by omega)), Option.bind_some,
      step_last done (by omega) (Nat.le_add_left _ _) (tail_le (by omega)), value]
    rfl

/-! ### The octets of a character from its bits -/

theorem encodeChar_one {n : Nat} (h : n < 0x80) : String.utf8EncodeChar (Char.ofNat n) = [UInt8.ofNat n] := by
  have hv : (Char.ofNat n).val.toNat = n := toNat_ofNat_of_valid (Or.inl (by omega))
  rw [String.utf8EncodeChar.eq_1, hv, if_pos (by omega)]

theorem encodeChar_two {n m : Nat} (hn : 0xc2 ≤ n ∧ n ≤ 0xdf) (hm : m < 64) :
    String.utf8EncodeChar (Char.ofNat ((n - 0xc0) * 64 + m)) = [UInt8.ofNat n, UInt8.ofNat (m + 0x80)] := by
  have hv : (Char.ofNat ((n - 0xc0) * 64 + m)).val.toNat = (n - 0xc0) * 64 + m :=
    toNat_ofNat_of_valid (Or.inl (by omega))
  have first : ((n - 0xc0) * 64 + m) / 64 % 32 + 192 = n := by omega
  have second : ((n - 0xc0) * 64 + m) % 64 = m := by omega
  rw [String.utf8EncodeChar.eq_1, hv, if_neg (by omega), if_pos (by omega), first, second]

theorem encodeChar_three {n m k : Nat} (hn : 0xe0 ≤ n ∧ n ≤ 0xef) (hm : m < 64) (hk : k < 64)
    (long : n = 0xe0 → 32 ≤ m) (scalar : n = 0xed → m < 32) :
    String.utf8EncodeChar (Char.ofNat (((n - 0xe0) * 64 + m) * 64 + k)) =
      [UInt8.ofNat n, UInt8.ofNat (m + 0x80), UInt8.ofNat (k + 0x80)] := by
  have valid : (((n - 0xe0) * 64 + m) * 64 + k).isValidChar := by
    rcases Nat.lt_or_ge n 0xee with below | above
    · exact Or.inl (by omega)
    · exact Or.inr (by omega)
  have hv : (Char.ofNat (((n - 0xe0) * 64 + m) * 64 + k)).val.toNat = ((n - 0xe0) * 64 + m) * 64 + k :=
    toNat_ofNat_of_valid valid
  have first : (((n - 0xe0) * 64 + m) * 64 + k) / 4096 % 16 + 224 = n := by omega
  have second : (((n - 0xe0) * 64 + m) * 64 + k) / 64 % 64 = m := by omega
  have third : (((n - 0xe0) * 64 + m) * 64 + k) % 64 = k := by omega
  rw [String.utf8EncodeChar.eq_1, hv, if_neg (by omega), if_neg (by omega), if_pos (by omega), first, second, third]

theorem encodeChar_four {n m k j : Nat} (hn : 0xf0 ≤ n ∧ n ≤ 0xf4) (hm : m < 64) (hk : k < 64) (hj : j < 64)
    (long : n = 0xf0 → 16 ≤ m) (bounded : n = 0xf4 → m < 16) :
    String.utf8EncodeChar (Char.ofNat ((((n - 0xf0) * 64 + m) * 64 + k) * 64 + j)) =
      [UInt8.ofNat n, UInt8.ofNat (m + 0x80), UInt8.ofNat (k + 0x80), UInt8.ofNat (j + 0x80)] := by
  have hv : (Char.ofNat ((((n - 0xf0) * 64 + m) * 64 + k) * 64 + j)).val.toNat =
      (((n - 0xf0) * 64 + m) * 64 + k) * 64 + j :=
    toNat_ofNat_of_valid (Or.inr (by omega))
  have first : ((((n - 0xf0) * 64 + m) * 64 + k) * 64 + j) / 262144 % 8 + 240 = n := by omega
  have second : ((((n - 0xf0) * 64 + m) * 64 + k) * 64 + j) / 4096 % 64 = m := by omega
  have third : ((((n - 0xf0) * 64 + m) * 64 + k) * 64 + j) / 64 % 64 = k := by omega
  have fourth : ((((n - 0xf0) * 64 + m) * 64 + k) * 64 + j) % 64 = j := by omega
  rw [String.utf8EncodeChar.eq_1, hv, if_neg (by omega), if_neg (by omega), if_neg (by omega), first, second, third,
    fourth]

/-! ### Taking a character off some octets -/

/-- If octets bring an open character to its end, the first of them is within the bounds. -/
theorem exists_tail {done out : List Char} {q : Pending} {bs : List UInt8} (hlow : 0x80 ≤ q.low.toNat)
    (hhigh : q.high.toNat ≤ 0xbf) (h : bs.foldlM Progress.step ⟨done, some q⟩ = some ⟨out, none⟩) :
    ∃ m rest, bs = UInt8.ofNat (m + 0x80) :: rest ∧ m < 64 ∧ q.low.toNat ≤ m + 0x80 ∧ m + 0x80 ≤ q.high.toNat := by
  cases bs with
  | nil => simp at h
  | cons b rest =>
    by_cases within : q.low ≤ b ∧ b ≤ q.high
    · rw [UInt8.le_iff_toNat_le, UInt8.le_iff_toNat_le] at within
      have hb : b.toNat - 0x80 + 0x80 = b.toNat := by omega
      refine ⟨b.toNat - 0x80, rest, ?_, by omega, by omega, by omega⟩
      rw [hb, UInt8.ofNat_toNat]
    · rw [List.foldlM_cons] at h
      simp only [Progress.step, if_neg within] at h
      cases h

/-- Octets that end between characters are empty or start with the octets of a character. -/
theorem exists_char {done out : List Char} {b : UInt8} {bs : List UInt8}
    (h : (b :: bs).foldlM Progress.step ⟨done, none⟩ = some ⟨out, none⟩) :
    ∃ c rest, b :: bs = String.utf8EncodeChar c ++ rest ∧ rest.foldlM Progress.step ⟨c :: done, none⟩ = some ⟨out, none⟩ := by
  have hn : b.toNat < 256 := b.toNat_lt
  rw [← UInt8.ofNat_toNat (x := b)] at h ⊢
  generalize b.toNat = n at h hn
  rw [List.foldlM_cons] at h
  rcases Nat.lt_or_ge n 0x80 with ascii | several
  · rw [step_ascii done ascii] at h
    exact ⟨Char.ofNat n, bs, by rw [encodeChar_one ascii]; rfl, h⟩
  rw [step_leading done ⟨several, hn⟩] at h
  have opens : (Pending.ofLeading (UInt8.ofNat n)).isSome := by
    cases hq : Pending.ofLeading (UInt8.ofNat n) with
    | none => simp [hq] at h
    | some q => rfl
  rcases ofLeading_isSome n hn opens with two | three | four
  · rw [ofLeading_two n hn two.1 two.2] at h
    obtain ⟨m, rest, rfl, hm, mlow, mhigh⟩ := exists_tail (by simp) (by simp) h
    rw [Option.map_some, Option.bind_eq_bind, Option.bind_some, List.foldlM_cons, step_last done hm mlow mhigh] at h
    exact ⟨_, rest, by rw [encodeChar_two two hm]; rfl, h⟩
  · rw [ofLeading_three n hn three.1 three.2] at h
    obtain ⟨m, rest, rfl, hm, mlow, mhigh⟩ := exists_tail (by dsimp only; split <;> simp) (by dsimp only; split <;> simp) h
    rw [Option.map_some, Option.bind_eq_bind, Option.bind_some, List.foldlM_cons, step_more done hm mlow mhigh] at h
    obtain ⟨k, rest, rfl, hk, klow, khigh⟩ := exists_tail (by simp) (by simp) h
    rw [Option.bind_eq_bind, Option.bind_some, List.foldlM_cons, step_last done hk klow khigh] at h
    -- the bounds of the second octet keep out long forms and surrogates
    have long : n = 0xe0 → 32 ≤ m := by
      rintro rfl
      simp at mlow
      omega
    have scalar : n = 0xed → m < 32 := by
      rintro rfl
      simp at mhigh
      omega
    exact ⟨_, rest, by rw [encodeChar_three three hm hk long scalar]; rfl, h⟩
  · rw [ofLeading_four n hn four.1 four.2] at h
    obtain ⟨m, rest, rfl, hm, mlow, mhigh⟩ := exists_tail (by dsimp only; split <;> simp) (by dsimp only; split <;> simp) h
    rw [Option.map_some, Option.bind_eq_bind, Option.bind_some, List.foldlM_cons, step_more done hm mlow mhigh] at h
    obtain ⟨k, rest, rfl, hk, klow, khigh⟩ := exists_tail (by simp) (by simp) h
    rw [Option.bind_eq_bind, Option.bind_some, List.foldlM_cons, step_more done hk klow khigh] at h
    obtain ⟨j, rest, rfl, hj, jlow, jhigh⟩ := exists_tail (by simp) (by simp) h
    rw [Option.bind_eq_bind, Option.bind_some, List.foldlM_cons, step_last done hj jlow jhigh] at h
    -- here they keep out long forms and what is above the last character
    have long : n = 0xf0 → 16 ≤ m := by
      rintro rfl
      simp at mlow
      omega
    have bounded : n = 0xf4 → m < 16 := by
      rintro rfl
      simp at mhigh
      omega
    exact ⟨_, rest, by rw [encodeChar_four four hm hk hj long bounded]; rfl, h⟩

/-! ### Whole texts -/

theorem foldlM_encode (cs done : List Char) :
    (encode cs).foldlM Progress.step ⟨done, none⟩ = some ⟨cs.reverse ++ done, none⟩ := by
  induction cs generalizing done with
  | nil => rfl
  | cons c cs ih =>
    rw [encode, List.flatMap_cons, List.foldlM_append, foldlM_encodeChar, Option.bind_eq_bind, Option.bind_some]
    have rest := ih (c :: done)
    rw [encode] at rest
    rw [rest, List.reverse_cons, List.append_assoc]
    rfl

theorem eq_encode_of_foldlM {done out : List Char} (bs : List UInt8)
    (h : bs.foldlM Progress.step ⟨done, none⟩ = some ⟨out, none⟩) :
    ∃ cs, bs = encode cs ∧ out = cs.reverse ++ done := by
  -- the octets of one character are taken off at a time, so the induction is on how many octets are left
  induction hlen : bs.length using Nat.strongRecOn generalizing bs done with
  | ind length ih =>
    cases bs with
    | nil =>
      simp only [List.foldlM_nil, Option.pure_def, Option.some.injEq, Progress.mk.injEq, and_true] at h
      exact ⟨[], rfl, by simp [h]⟩
    | cons b bs =>
      obtain ⟨c, rest, split, hrest⟩ := exists_char h
      have shorter : rest.length < length := by
        have nonempty := List.length_pos_of_ne_nil (String.utf8EncodeChar_ne_nil (c := c))
        have lengths := congrArg List.length split
        rw [List.length_append] at lengths
        omega
      obtain ⟨cs, rfl, rfl⟩ := ih rest.length shorter rest hrest rfl
      refine ⟨c :: cs, by rw [split, encode, encode, List.flatMap_cons], by simp⟩

/-- Some octets decode to a text exactly if they are its UTF-8 form. -/
theorem decode_eq_some_iff {bs : List UInt8} {cs : List Char} : decode bs = some cs ↔ bs = encode cs := by
  constructor
  · intro h
    rw [decode] at h
    split at h
    · rename_i done hfold
      obtain ⟨cs', rfl, rfl⟩ := eq_encode_of_foldlM bs hfold
      simp only [List.append_nil, List.reverse_reverse, Option.some.injEq] at h
      rw [h]
    · cases h
  · rintro rfl
    have whole := foldlM_encode cs []
    rw [← Progress.start] at whole
    simp only [decode, whole, List.append_nil, List.reverse_reverse]

theorem decode_encode (cs : List Char) : decode (encode cs) = some cs :=
  decode_eq_some_iff.mpr rfl

/-! ### Texts side by side -/

theorem encode_append (cs ds : List Char) : encode (cs ++ ds) = encode cs ++ encode ds :=
  List.flatMap_append

/-- Where a text has been read whole, the octets of a longer one go on with whole characters. -/
theorem exists_of_encode_append {cs ds : List Char} {bs : List UInt8} (h : encode cs ++ bs = encode ds) :
    ∃ es, ds = cs ++ es ∧ bs = encode es := by
  have whole := foldlM_encode ds []
  rw [← h, List.foldlM_append, foldlM_encode cs [], Option.bind_eq_bind, Option.bind_some] at whole
  obtain ⟨es, rfl, same⟩ := eq_encode_of_foldlM bs whole
  refine ⟨es, ?_, rfl⟩
  simpa using congrArg List.reverse same

end AdmissionGate.Text.Utf8
