import StickerPages.Remote.Body

/-!
# How a body begins

A body can be read as the text it is, or as bytes that tell by themselves how characters were written
in them. What the bytes tell is settled by how the body begins. A body that begins with neither a mark
nor a zero (`Bare`) is the same read either way (`recode?_of_bare`).

Every other body is no JSON text as it stands (`readBody_of_not_bare`), because no JSON text has a
mark in front or holds a zero. Read as bytes it may well be one.
-/

namespace StickerPages.Remote

/-- In front of a body there is no mark, and its first two characters are not zeros. -/
def Bare (body : String) : Prop :=
  body.toList.head? ≠ some '\ufeff' ∧ '\x00' ∉ body.toList.take 2

instance (body : String) : Decidable (Bare body) := inferInstanceAs (Decidable (_ ∧ _))

/-! ## The first bytes -/

/-- The bytes of a character as numbers. -/
def octets (c : Char) : List Nat := (String.utf8EncodeChar c).map UInt8.toNat

/-- The bytes of some characters as numbers. -/
def octetsOf (cs : List Char) : List Nat := cs.flatMap octets

theorem octetsOf_toList (body : String) :
    body.toUTF8.data.toList.map UInt8.toNat = octetsOf body.toList := by
  have hbytes : body.toUTF8 = (body.toList.flatMap String.utf8EncodeChar).toByteArray := by
    rw [String.toUTF8_eq_toByteArray, ← String.utf8Encode_toList, List.utf8Encode]
  rw [hbytes, List.data_toByteArray, List.map_flatMap]
  rfl

/-- A character takes one to four bytes. -/
theorem octets_eq (c : Char) :
    octets c =
      if c.toNat ≤ 0x7f then [c.toNat]
      else if c.toNat ≤ 0x7ff then [c.toNat / 64 % 32 + 192, c.toNat % 64 + 128]
      else if c.toNat ≤ 0xffff then
        [c.toNat / 4096 % 16 + 224, c.toNat / 64 % 64 + 128, c.toNat % 64 + 128]
      else
        [c.toNat / 262144 % 8 + 240, c.toNat / 4096 % 64 + 128, c.toNat / 64 % 64 + 128,
          c.toNat % 64 + 128] := by
  have hbyte (n : Nat) (hn : n < 256) : (UInt8.ofNat n).toNat = n := by
    rw [UInt8.toNat_ofNat']
    exact Nat.mod_eq_of_lt hn
  unfold octets String.utf8EncodeChar
  dsimp only
  rw [show c.val.toNat = c.toNat from rfl]
  split
  · simp (disch := omega) only [List.map_cons, List.map_nil, hbyte]
  · split
    · simp (disch := omega) only [List.map_cons, List.map_nil, hbyte]
    · split <;> simp (disch := omega) only [List.map_cons, List.map_nil, hbyte]

/-- Only the zero has a byte that is zero. -/
theorem not_mem_octets {c : Char} (h : c ≠ '\x00') : 0 ∉ octets c := by
  have hc : c.toNat ≠ 0 := fun hc => h (Char.toNat_inj.mp hc)
  rw [octets_eq]
  split
  · simpa using hc.symm
  · split
    · simp
    · split <;> simp

/-- Only the mark begins with the bytes of the mark. -/
theorem eq_of_octets {c : Char} {rest r : List Nat}
    (h : octets c ++ rest = 0xef :: 0xbb :: 0xbf :: r) : c = '\ufeff' := by
  rw [octets_eq] at h
  refine Char.toNat_inj.mp ?_
  show c.toNat = 0xfeff
  split at h
  · have h₁ := (List.cons.inj h).1
    omega
  · split at h
    · have h₁ := (List.cons.inj h).1
      omega
    · split at h
      · obtain ⟨h₁, h⟩ := List.cons.inj h
        obtain ⟨h₂, h⟩ := List.cons.inj h
        have h₃ := (List.cons.inj h).1
        omega
      · have h₁ := (List.cons.inj h).1
        omega

/-- Without a zero among the first characters there is none among as many bytes. -/
theorem not_mem_take_octetsOf {cs : List Char} {n : Nat} (h : '\x00' ∉ cs.take n) :
    0 ∉ (octetsOf cs).take n := by
  induction cs generalizing n with
  | nil => simp [octetsOf]
  | cons c r ih =>
      cases n with
      | zero => simp
      | succ n =>
          rw [List.take_succ_cons, List.mem_cons, not_or] at h
          obtain ⟨hc, hr⟩ := h
          have hlength : 1 ≤ (octets c).length := by
            rw [octets_eq]
            split
            · exact Nat.le_refl 1
            · split
              · simp
              · split <;> simp
          rw [octetsOf, List.flatMap_cons, List.take_append, List.mem_append, not_or]
          refine ⟨fun hm => not_mem_octets (Ne.symm hc) (List.mem_of_mem_take hm), fun hm => ?_⟩
          exact ih hr ((List.take_subset_take_left _ (by omega)) hm)

theorem ofBytes_eq_bytes {bs : List Nat} (hzero : 0 ∉ bs.take 2)
    (hmark : ∀ r, bs ≠ 0xef :: 0xbb :: 0xbf :: r) : Encoding.ofBytes bs = .bytes := by
  unfold Encoding.ofBytes
  split
  · exact absurd rfl (hmark _)
  · simp only [List.take_succ_cons, List.take_zero, List.mem_cons, List.not_mem_nil, or_false,
      not_or] at hzero
    rw [if_neg (Ne.symm hzero.1), if_neg (Ne.symm hzero.2)]
  · simp only [List.take_succ_cons, List.take_zero, List.mem_cons, List.not_mem_nil, or_false,
      not_or] at hzero
    rw [if_neg (Ne.symm hzero.1), if_neg (Ne.symm hzero.2)]
  · rfl

/-- **A bare body is the text it is, also when it is read as bytes.** -/
theorem recode?_of_bare {body : String} (h : Bare body) : recode? body = some body := by
  obtain ⟨hmark, hzero⟩ := h
  have hbytes : Encoding.ofBytes (octetsOf body.toList) = .bytes := by
    refine ofBytes_eq_bytes (not_mem_take_octetsOf hzero) fun r hr => ?_
    cases hcs : body.toList with
    | nil =>
        rw [hcs] at hr
        cases hr
    | cons c cs =>
        rw [hcs, octetsOf, List.flatMap_cons] at hr
        rw [hcs, eq_of_octets hr] at hmark
        exact hmark rfl
  unfold recode?
  dsimp only
  rw [octetsOf_toList, hbytes]

/-! ## Texts that are no JSON -/

open Json

/-- A mark or a zero. -/
def Foreign (c : Char) : Prop := c = '\ufeff' ∨ c = '\x00'

theorem skipSpace_foreign {c : Char} (hc : Foreign c) (r : List Char) :
    skipSpace (c :: r) = c :: r := by
  rcases hc with rfl | rfl <;> rfl

theorem unsigned?_foreign {c : Char} (hc : Foreign c) (negative : Bool) (r : List Char) :
    unsigned? negative (c :: r) = none := by
  rcases hc with rfl | rfl <;> rfl

/-- No value begins with a mark or a zero. -/
theorem value?_foreign {c : Char} (hc : Foreign c) (fuel : Nat) (r : List Char) :
    value? fuel (c :: r) = none := by
  cases fuel with
  | zero => rw [value?]
  | succ fuel =>
      have hscalar : scalar? (c :: r) = none := by
        rcases hc with rfl | rfl <;> rfl
      rcases hc with rfl | rfl <;> simp [value?, hscalar]

/-- A scalar goes on with no zero behind its first character. -/
theorem unsigned?_zero {negative : Bool} {c : Char} {r rest : List Char} {v : Scalar}
    (h : unsigned? negative (c :: '\x00' :: r) = some (v, rest)) : rest = '\x00' :: r := by
  by_cases hc : c = '0'
  · subst hc
    cases negative <;> exact (Prod.mk.inj (Option.some.inj h)).2.symm
  · by_cases hdigit : c.isDigit = true
    · have htake : (c :: '\x00' :: r).takeWhile Char.isDigit = [c] := by simp [hdigit]
      have hdrop : (c :: '\x00' :: r).dropWhile Char.isDigit = '\x00' :: r := by simp [hdigit]
      unfold unsigned? at h
      split at h
      next heq =>
        split at heq
        · next h0 => exact absurd (List.cons.inj h0).1 hc
        · rw [htake, hdrop] at heq
          cases heq
          exact (Prod.mk.inj (Option.some.inj h)).2.symm
    · have htake : (c :: '\x00' :: r).takeWhile Char.isDigit = [] := by simp [hdigit]
      unfold unsigned? at h
      split at h
      next heq =>
        split at heq
        · next h0 => exact absurd (List.cons.inj h0).1 hc
        · rw [htake] at heq
          cases heq
          cases h

theorem scalar?_zero {c : Char} {r rest : List Char} {v : Scalar}
    (h : scalar? (c :: '\x00' :: r) = some (v, rest)) : rest = '\x00' :: r := by
  unfold scalar? at h
  split at h
  next heq => cases heq
  next heq => cases heq
  next heq => cases heq
  next heq => cases heq
  next heq => cases heq
  next heq => cases heq
  next heq =>
    cases heq
    rw [unsigned?_foreign (.inr rfl)] at h
    cases h
  next => exact unsigned?_zero h

/-- A value goes on with no zero behind its first character. -/
theorem value?_zero {fuel : Nat} {c : Char} {r rest : List Char} {v : Value}
    (h : value? fuel (c :: '\x00' :: r) = some (v, rest)) : rest = '\x00' :: r := by
  have hzero : Foreign '\x00' := .inr rfl
  cases fuel with
  | zero =>
      rw [value?.eq_def] at h
      cases h
  | succ fuel =>
      rw [value?.eq_def] at h
      dsimp only at h
      split at h
      next heq =>
        -- a text holds no zero
        cases heq
        simp [stringTail] at h
      next heq =>
        -- neither an item of a list nor a key of a map begins with a zero
        cases heq
        rw [skipSpace_foreign hzero] at h
        cases fuel with
        | zero => cases h
        | succ fuel => simp [items?, value?_foreign hzero] at h
      next heq =>
        cases heq
        rw [skipSpace_foreign hzero] at h
        cases fuel with
        | zero => cases h
        | succ fuel => simp [entries?] at h
      next =>
        cases hscalar : scalar? (c :: '\x00' :: r) with
        | none =>
            rw [hscalar] at h
            cases h
        | some s =>
            rw [hscalar] at h
            cases h
            exact scalar?_zero hscalar

theorem read?_of_foreign {s : String} {c : Char} {r : List Char} (hc : Foreign c)
    (hs : skipSpace s.toList = c :: r) : read? s = none := by
  rw [read?, hs]
  dsimp only
  rw [value?_foreign hc]
  rfl

theorem read?_of_zero {s : String} {c : Char} {r : List Char}
    (hs : skipSpace s.toList = c :: '\x00' :: r) : read? s = none := by
  rw [read?, hs]
  dsimp only
  cases hvalue : value? _ (c :: '\x00' :: r) with
  | none => rfl
  | some v =>
      obtain ⟨v, rest⟩ := v
      obtain rfl := value?_zero hvalue
      rfl

/-- A text that is not bare is no JSON text. -/
theorem read?_of_not_bare {body : String} (h : ¬Bare body) : read? body = none := by
  have hcases : (∃ c r, body.toList = c :: r ∧ Foreign c) ∨
      ∃ c r, body.toList = c :: '\x00' :: r := by
    rw [Bare, Classical.not_and_iff_not_or_not, Classical.not_not, Classical.not_not] at h
    cases hcs : body.toList with
    | nil => simp [hcs] at h
    | cons c r =>
        rw [hcs] at h
        rcases h with hmark | hzero
        · exact .inl ⟨c, r, rfl, .inl (Option.some.inj hmark)⟩
        · cases r with
          | nil => exact .inl ⟨c, [], rfl, .inr (List.mem_singleton.mp hzero).symm⟩
          | cons d r =>
              rw [List.take_succ_cons, List.take_succ_cons, List.take_zero, List.mem_cons,
                List.mem_singleton] at hzero
              rcases hzero with rfl | rfl
              · exact .inl ⟨_, _, rfl, .inr rfl⟩
              · exact .inr ⟨c, r, rfl⟩
  -- the first character is foreign, or behind it the second one is
  rcases hcases with ⟨c, r, hbody, hc⟩ | ⟨c, r, hbody⟩
  · exact read?_of_foreign hc (by rw [hbody, skipSpace_foreign hc])
  · cases hspace : isSpace c with
    | true =>
        have hskip : skipSpace body.toList = skipSpace ('\x00' :: r) := by
          rw [hbody, skipSpace, List.dropWhile_cons, if_pos hspace]
          rfl
        exact read?_of_foreign (.inr rfl) (hskip.trans (skipSpace_foreign (.inr rfl) r))
    | false =>
        refine read?_of_zero (c := c) (r := r) ?_
        rw [hbody, skipSpace, List.dropWhile_cons, if_neg (by simp [hspace])]

/-- **A body that is not bare holds no data as the text it is.** -/
theorem readBody_of_not_bare {body : String} (h : ¬Bare body) :
    readBody body = .error .notJson := by
  rw [readBody, readJson, read?_of_not_bare h]
  rfl

end StickerPages.Remote
