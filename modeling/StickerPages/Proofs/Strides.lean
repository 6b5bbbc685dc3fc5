import Mathlib.Data.List.TakeWhile
import StickerPages.Markup.Piece

/-!
# Every step of the reading goes forward

A page is read by repeating one step, `next`, as often as there is fuel. Each step leaves less than
it found, so the fuel never decides anything: `piecesOf` is the reading of a rest of the page, and
what it gives is what the first step finds and then the reading of what that step leaves
(`piecesOf_go`).

The lemmas follow the definitions: what a search leaves is shorter than what it searched, what a tag
leaves is no longer than what stood behind its bracket.
-/

namespace StickerPages.Markup

/-! ## Searches -/

theorem length_dropWhile_le (p : Char → Bool) (cs : List Char) :
    (cs.dropWhile p).length ≤ cs.length :=
  (List.dropWhile_suffix p).length_le

theorem length_trimLeft_le (cs : List Char) : (Text.trimLeft cs).length ≤ cs.length :=
  length_dropWhile_le _ cs

theorem splitAtChar?_eq_some {c : Char} {cs inside after : List Char}
    (h : splitAtChar? c cs = some (inside, after)) : cs = inside ++ c :: after := by
  induction cs generalizing inside with
  | nil => cases h
  | cons d r ih =>
      rw [splitAtChar?] at h
      split at h
      · next hd =>
        cases h
        rw [hd]
        rfl
      · obtain ⟨found, hfound, heq⟩ := Option.map_eq_some_iff.mp h
        cases heq
        rw [ih hfound]
        rfl

theorem length_splitAtChar? {c : Char} {cs inside after : List Char}
    (h : splitAtChar? c cs = some (inside, after)) : after.length < cs.length := by
  rw [splitAtChar?_eq_some h, List.length_append, List.length_cons]
  omega

/-- What is left behind such an end is shorter than what began with it. -/
def Shortens (tail? : List Char → Option (List Char)) : Prop :=
  ∀ cs r, tail? cs = some r → r.length < cs.length

theorem length_splitWhere? {tail? : List Char → Option (List Char)} (ht : Shortens tail?)
    {cs inside after : List Char} (h : splitWhere? tail? cs = some (inside, after)) :
    after.length < cs.length := by
  induction cs generalizing inside with
  | nil =>
      obtain ⟨r, hr, heq⟩ := Option.map_eq_some_iff.mp h
      cases heq
      exact ht _ _ hr
  | cons c r ih =>
      rw [splitWhere?] at h
      split at h
      · next r' hr' =>
        cases h
        exact ht _ _ hr'
      · obtain ⟨found, hfound, heq⟩ := Option.map_eq_some_iff.mp h
        cases heq
        have := ih hfound
        rw [List.length_cons]
        omega

theorem shortens_blanksThen (c : Char) : Shortens (blanksThen? c) := by
  intro cs r h
  have hle := length_trimLeft_le cs
  unfold blanksThen? at h
  split at h
  · next d r' hd =>
    split at h
    · cases h
      rw [hd, List.length_cons] at hle
      omega
    · cases h
  · cases h

theorem shortens_commentEnd : Shortens commentEnd? := by
  intro cs r h
  unfold commentEnd? at h
  split at h
  · have := shortens_blanksThen _ _ _ h
    simp only [List.length_cons]
    omega
  · cases h

theorem shortens_sectionEnd : Shortens sectionEnd? := by
  intro cs r h
  unfold sectionEnd? at h
  split at h
  · obtain ⟨r', hr', hr⟩ := Option.bind_eq_some_iff.mp h
    have h1 := shortens_blanksThen _ _ _ hr'
    have h2 := shortens_blanksThen _ _ _ hr
    rw [List.length_cons]
    omega
  · cases h

theorem shortens_conditionEnd : Shortens conditionEnd? := by
  intro cs r h
  unfold conditionEnd? at h
  split at h
  · have := shortens_blanksThen _ _ _ h
    rw [List.length_cons]
    omega
  · cases h

theorem length_dropName? {name cs r : List Char} (h : dropName? name cs = some r) :
    r.length ≤ cs.length := by
  induction name generalizing cs with
  | nil =>
      cases h
      exact Nat.le_refl _
  | cons a name ih =>
      cases cs with
      | nil => cases h
      | cons c cs =>
          rw [dropName?] at h
          split at h
          · exact Nat.le_succ_of_le (ih h)
          · cases h

theorem shortens_rawStop (name : String) : Shortens (rawStop? name) := by
  intro cs r h
  unfold rawStop? at h
  split at h
  · next r₀ =>
    obtain ⟨r', hr', hr⟩ := Option.bind_eq_some_iff.mp h
    have h1 := length_trimLeft_le r₀
    have h2 := length_dropName? hr'
    have h3 := shortens_blanksThen _ _ _ hr
    simp only [List.length_cons]
    omega
  · cases h

/-! ## Start tags -/

theorem length_skipBetween_le (cs : List Char) : (skipBetween cs).length ≤ cs.length := by
  fun_induction skipBetween cs with
  | case1 => exact Nat.le_refl _
  | case2 => exact Nat.le_refl _
  | case3 c r _ _ ih => exact Nat.le_succ_of_le ih
  | case4 => exact Nat.le_refl _

theorem length_attrValueFrom? {signs : Nat} {gap cs value rest : List Char}
    (h : attrValueFrom? signs gap cs = some (value, rest)) : rest.length ≤ cs.length := by
  -- an equals sign taken into a bare value is not there afterwards
  have hsign (xs : List Char) :
      (('=' :: xs).dropWhile fun c => !(c == '>' || Text.isBlank c)).length ≤ xs.length := by
    rw [List.dropWhile_cons_of_pos (by decide)]
    exact length_dropWhile_le _ xs
  have hfallback {xs : List Char} (hx : (if !gap.isEmpty then some ([], xs) else
      if 1 < signs then some ((('=' :: xs).takeWhile fun c => !(c == '>' || Text.isBlank c)),
        ('=' :: xs).dropWhile fun c => !(c == '>' || Text.isBlank c)) else none) =
      some (value, rest)) : rest.length ≤ xs.length := by
    split at hx
    · cases hx
      exact Nat.le_refl _
    · split at hx
      · cases hx
        exact hsign xs
      · cases hx
  unfold attrValueFrom? at h
  dsimp only at h
  split at h
  · split at h
    · next found hfound =>
      cases h
      exact Nat.le_succ_of_le (Nat.le_of_lt (length_splitAtChar? hfound))
    · exact hfallback h
  · split at h
    · next found hfound =>
      cases h
      exact Nat.le_succ_of_le (Nat.le_of_lt (length_splitAtChar? hfound))
    · exact hfallback h
  · cases h
    exact length_dropWhile_le _ cs

theorem length_attrValue? {cs value rest : List Char} (h : attrValue? cs = some (value, rest)) :
    rest.length ≤ cs.length := by
  unfold attrValue? at h
  dsimp only at h
  split at h
  · cases h
  · have hvalue := length_attrValueFrom? h
    have hgap := length_trimLeft_le ((Text.trimLeft cs).drop
      ((Text.trimLeft cs).takeWhile (· == '=')).length)
    rw [List.length_drop] at hgap
    have htrim := length_trimLeft_le cs
    omega

theorem length_attrsFrom (fuel : Nat) :
    ∀ (last : Char) (cs : List Char), (attrsFrom fuel last cs).2.2.length ≤ cs.length := by
  induction fuel with
  | zero => exact fun _ cs => Nat.le_refl _
  | succ fuel ih =>
      intro last cs
      cases cs with
      | nil => exact Nat.le_refl _
      | cons c r =>
        rw [attrsFrom]
        split
        · exact Nat.le_refl _
        · have hname := length_dropWhile_le (fun d => !endsAttrName d) r
          refine Nat.le_trans (ih _ _) (Nat.le_trans (length_skipBetween_le _) ?_)
          split
          · next hsome =>
            have := length_attrValue? hsome
            simp only [List.length_cons]
            omega
          · simp only [List.length_cons]
            omega

/-! ## Markup -/

/-- What a step leaves. -/
def Step.left : Step → List Char
  | .go _ _ rest => rest
  | .stopAt _ rest => rest

variable {cs : List Char} {step : Step}

theorem length_startTag? (h : startTag? cs = some step) : step.left.length ≤ cs.length := by
  have hrest : ∀ fuel last, (Text.trimLeft (attrsFrom fuel last
      (skipBetween (cs.dropWhile fun c => !endsTagName c))).2.2).length ≤ cs.length := by
    intro fuel last
    have h1 := length_dropWhile_le (fun c => !endsTagName c) cs
    have h2 := length_skipBetween_le (cs.dropWhile fun c => !endsTagName c)
    have h3 := length_attrsFrom fuel last (skipBetween (cs.dropWhile fun c => !endsTagName c))
    have h4 := length_trimLeft_le (attrsFrom fuel last
      (skipBetween (cs.dropWhile fun c => !endsTagName c))).2.2
    omega
  unfold startTag? at h
  dsimp only at h
  split at h
  · cases h
  · next r hr =>
    cases h
    have := hr ▸ hrest _ _
    exact Nat.le_of_succ_le this
  · next r hr =>
    cases h
    have := hr ▸ hrest _ _
    exact Nat.le_of_succ_le (Nat.le_of_succ_le this)
  · split at h
    · cases h
    · cases h
      exact hrest _ _

theorem length_plainStop? {name r : List Char} (h : plainStop? cs = some (name, r)) :
    r.length ≤ cs.length := by
  have htrim := length_trimLeft_le cs
  unfold plainStop? at h
  dsimp only at h
  split at h
  · next c r' hr =>
    split at h
    · obtain ⟨r'', hr'', heq⟩ := Option.map_eq_some_iff.mp h
      cases heq
      have h1 := shortens_blanksThen _ _ _ hr''
      have h2 := length_dropWhile_le isStopNameChar (Text.trimLeft cs)
      omega
    · cases h
  · cases h

theorem length_stopTag? (h : stopTag? cs = some step) : step.left.length ≤ cs.length := by
  unfold stopTag? at h
  split at h
  · cases h
  · next inside after hsplit =>
    have hafter := Nat.le_of_lt (length_splitAtChar? hsplit)
    split at h
    · next hplain =>
      cases h
      exact length_plainStop? hplain
    · split at h
      · split at h
        · cases h
          exact hafter
        · split at h
          · cases h
            exact hafter
          · cases h
            exact hafter
      · cases h

/-- The end that a marked section has by its keyword. -/
def sectionTail? (word : List Char) : Option (List Char → Option (List Char)) :=
  let word := String.ofList (Text.asciiSmall word)
  if ["temp", "cdata", "ignore", "include", "rcdata"].contains word then some sectionEnd?
  else if ["if", "else", "endif"].contains word then some conditionEnd?
  else none

/-- The note that a marked section is, from what it holds and what stands behind it. -/
def sectionNote (found : List Char × List Char) : Step :=
  if Text.asciiSmall (found.1.take 6) = "cdata[".toList then
    .go [.note .cdata (found.1.drop 6)] none found.2
  else .go [.note .declaration found.1] none found.2

@[simp]
theorem left_sectionNote (found : List Char × List Char) : (sectionNote found).left = found.2 := by
  unfold sectionNote
  split <;> rfl

theorem sectionTail?_eq_some {word : List Char} {tail? : List Char → Option (List Char)}
    (h : sectionTail? word = some tail?) : tail? = sectionEnd? ∨ tail? = conditionEnd? := by
  unfold sectionTail? at h
  dsimp only at h
  split at h
  · exact .inl (Option.some.inj h).symm
  · split at h
    · exact .inr (Option.some.inj h).symm
    · cases h

/-- A marked section with a known keyword goes on to the end that the keyword asks for. -/
theorem markedSection?_eq (cs : List Char) :
    markedSection? cs = (sectionTail? (cs.takeWhile isKeywordChar)).bind fun tail? =>
      if (Text.trimLeft (cs.dropWhile isKeywordChar)).isEmpty then none
      else (splitWhere? tail? cs).map sectionNote := by
  unfold markedSection? sectionTail?
  dsimp only
  split
  · rfl
  · split <;> rfl

theorem markedSection?_eq_some (h : markedSection? cs = some step) :
    ∃ tail? found, sectionTail? (cs.takeWhile isKeywordChar) = some tail? ∧
      splitWhere? tail? cs = some found ∧ sectionNote found = step := by
  rw [markedSection?_eq] at h
  obtain ⟨tail?, htail, h⟩ := Option.bind_eq_some_iff.mp h
  split at h
  · cases h
  · obtain ⟨found, hfound, hnote⟩ := Option.map_eq_some_iff.mp h
    exact ⟨tail?, found, htail, hfound, hnote⟩

theorem length_markedSection? (h : markedSection? cs = some step) :
    step.left.length ≤ cs.length := by
  obtain ⟨tail?, found, htail, hfound, rfl⟩ := markedSection?_eq_some h
  have hshortens : Shortens tail? := by
    rcases sectionTail?_eq_some htail with rfl | rfl
    · exact shortens_sectionEnd
    · exact shortens_conditionEnd
  rw [left_sectionNote]
  exact Nat.le_of_lt (length_splitWhere? hshortens hfound)

theorem length_declaration? (h : declaration? cs = some step) : step.left.length ≤ cs.length := by
  unfold declaration? at h
  split at h
  · obtain ⟨found, hfound, heq⟩ := Option.map_eq_some_iff.mp h
    cases heq
    have := length_splitWhere? shortens_commentEnd hfound
    simp only [Step.left, List.length_cons]
    omega
  · exact Nat.le_succ_of_le (length_markedSection? h)
  · obtain ⟨found, hfound, heq⟩ := Option.map_eq_some_iff.mp h
    have hlength := Nat.le_of_lt (length_splitAtChar? hfound)
    rw [← heq]
    dsimp only
    split <;> exact hlength

theorem length_markup? (h : markup? cs = some step) : step.left.length ≤ cs.length := by
  unfold markup? at h
  split at h
  · exact Nat.le_succ_of_le (length_stopTag? h)
  · exact Nat.le_succ_of_le (length_declaration? h)
  · obtain ⟨found, hfound, heq⟩ := Option.map_eq_some_iff.mp h
    cases heq
    exact Nat.le_succ_of_le (Nat.le_of_lt (length_splitAtChar? hfound))
  · exact length_startTag? h

theorem length_cutShort (cs : List Char) : (cutShort cs).left.length ≤ cs.length := by
  unfold cutShort
  split
  · next hfound => exact Nat.le_of_lt (length_splitAtChar? hfound)
  · split
    · next hfound => exact length_splitAtChar? hfound
    · exact Nat.le_refl _

/-! ## References -/

theorem length_dropSemicolon_le (cs : List Char) : (dropSemicolon cs).length ≤ cs.length := by
  unfold dropSemicolon
  split
  · exact Nat.le_succ _
  · exact Nat.le_refl _

/-- A number in digits, cut off by the character behind them. -/
def digits? (isDigit : Char → Bool) (base : Nat) (cs : List Char) :
    Option (List Char × List Char) :=
  (cs.dropWhile isDigit).head?.bind fun c =>
    if (cs.takeWhile isDigit).isEmpty || Text.isHexDigit c then none
    else some (ofNumber (Text.number base (cs.takeWhile isDigit)),
      dropSemicolon (cs.dropWhile isDigit))

theorem numberedReference?_hex {c : Char} (hc : c = 'x' ∨ c = 'X') (r : List Char) :
    numberedReference? (c :: r) = digits? Text.isHexDigit 16 r := by
  rcases hc with rfl | rfl
  all_goals
    rw [numberedReference?, digits?]
    cases r.dropWhile Text.isHexDigit <;> rfl

theorem numberedReference?_decimal {c : Char} (hc : ¬(c = 'x' ∨ c = 'X')) (r : List Char) :
    numberedReference? (c :: r) = digits? Char.isDigit 10 (c :: r) := by
  unfold numberedReference? digits?
  dsimp only
  split
  · next heq => exact absurd (.inl (List.cons.inj heq).1) hc
  · next heq => exact absurd (.inr (List.cons.inj heq).1) hc
  · cases (c :: r).dropWhile Char.isDigit <;> rfl

/-- There is a digit at least. -/
theorem length_digits? {isDigit : Char → Bool} {base : Nat} {text rest : List Char}
    (h : digits? isDigit base cs = some (text, rest)) : rest.length < cs.length := by
  have hcut := congrArg List.length (List.takeWhile_append_dropWhile (p := isDigit) (l := cs))
  rw [List.length_append] at hcut
  obtain ⟨c, -, h⟩ := Option.bind_eq_some_iff.mp h
  split at h
  · cases h
  · next hc =>
    cases h
    rw [Bool.or_eq_true, not_or, List.isEmpty_iff] at hc
    have hpos := List.length_pos_iff.mpr hc.1
    have hleft := length_dropSemicolon_le (cs.dropWhile isDigit)
    omega

theorem length_numberedReference? {text rest : List Char}
    (h : numberedReference? cs = some (text, rest)) : rest.length < cs.length := by
  cases cs with
  | nil => cases h
  | cons c r =>
      by_cases hc : c = 'x' ∨ c = 'X'
      · rw [numberedReference?_hex hc] at h
        exact Nat.lt_succ_of_lt (length_digits? h)
      · rw [numberedReference?_decimal hc] at h
        exact length_digits? h

theorem length_namedReference? {text rest : List Char}
    (h : namedReference? cs = some (text, rest)) : rest.length ≤ cs.length := by
  have hdrop := length_dropWhile_le isReferenceChar cs
  unfold namedReference? at h
  dsimp only at h
  split at h
  · next c r hr =>
    cases h
    exact Nat.le_trans (length_dropSemicolon_le _) (hr ▸ hdrop)
  · split at h
    · cases h
    · cases h
      have htake : (cs.takeWhile isReferenceChar).length ≤ cs.length :=
        (List.takeWhile_prefix isReferenceChar).length_le
      rw [List.length_drop]
      omega

/-- A step that goes on leaves less than `n` characters; a stop leaves no more. -/
def Step.Within (n : Nat) : Step → Prop
  | .go _ _ rest => rest.length < n
  | .stopAt _ rest => rest.length ≤ n

theorem Step.within_of_left {n : Nat} (h : step.left.length < n) : step.Within n := by
  cases step with
  | go found raw rest => exact h
  | stopAt found rest => exact Nat.le_of_lt h

theorem within_reference (phase : Phase) (cs : List Char) :
    (reference phase cs).Within (cs.length + 1) := by
  unfold reference
  split
  · next r =>
    split
    · next hnumbered =>
      have := length_numberedReference? hnumbered
      simp only [Step.Within, List.length_cons]
      omega
    · split
      · exact Nat.le_succ_of_le (Nat.le_succ _)
      · exact Nat.le_refl _
  · next c r hc =>
    split
    · split
      · next hnamed => exact Nat.lt_succ_of_le (length_namedReference? hnamed)
      · split
        · exact Nat.le_succ _
        · exact Nat.le_refl _
    · exact Nat.lt_succ_self _
  · exact Nat.le_refl _

/-! ## The reading -/

theorem within_nextRaw (name : String) (cs : List Char) : (nextRaw name cs).Within cs.length := by
  unfold nextRaw
  split
  · exact Nat.le_refl _
  · next inside after hfound =>
    have hlength := length_splitWhere? (shortens_rawStop name) hfound
    dsimp only
    split <;> exact hlength

/-- **Every step goes forward.** -/
theorem within_next (phase : Phase) (raw : Option String) (cs : List Char) :
    (next phase raw cs).Within cs.length := by
  unfold next
  split
  · exact within_nextRaw _ cs
  · dsimp only
    split
    · -- a text that is not empty
      next hbefore =>
      have hcut := congrArg List.length
        (List.takeWhile_append_dropWhile (p := fun c => !(c == '<' || c == '&')) (l := cs))
      rw [List.length_append] at hcut
      have hpos : (cs.takeWhile fun c => !(c == '<' || c == '&')).length ≠ 0 := by
        simpa using hbefore
      simp only [Step.Within]
      omega
    · split
      · split
        · split
          · next hmarkup => exact Step.within_of_left (Nat.lt_succ_of_le (length_markup? hmarkup))
          · split
            · exact Step.within_of_left (Nat.lt_succ_of_le (length_cutShort _))
            · exact Nat.le_refl _
        · split
          · exact Nat.le_refl _
          · exact Nat.lt_succ_self _
      · exact within_reference phase _
      · exact Nat.le_refl _

/-- Steps enough to read a rest of the page to its end. -/
def Phase.need (n : Nat) : Phase → Nat
  | .feeding => n + 2
  | .closing => n + 1

/-- More fuel reads nothing more. -/
theorem piecesFrom_succ (n : Nat) :
    ∀ (phase : Phase) (raw : Option String) (cs : List Char), phase.need cs.length ≤ n →
      piecesFrom (n + 1) phase raw cs = piecesFrom n phase raw cs := by
  induction n with
  | zero =>
      intro phase raw cs hneed
      cases phase <;> simp [Phase.need] at hneed
  | succ n ih =>
      intro phase raw cs hneed
      have hwithin := within_next phase raw cs
      rw [piecesFrom, piecesFrom.eq_def (n + 1)]
      dsimp only
      split
      · rfl
      · cases hstep : next phase raw cs with
        | go found raw' rest =>
            rw [hstep] at hwithin
            have hlt : rest.length < cs.length := hwithin
            dsimp only
            rw [ih phase raw' rest]
            cases phase <;> simp only [Phase.need] at hneed ⊢ <;> omega
        | stopAt found rest =>
            rw [hstep] at hwithin
            have hle : rest.length ≤ cs.length := hwithin
            cases phase with
            | closing => rfl
            | feeding =>
                dsimp only
                rw [ih .closing raw rest]
                simp only [Phase.need] at hneed ⊢
                omega

theorem piecesFrom_eq {phase : Phase} {raw : Option String} {n m : Nat}
    (hn : phase.need cs.length ≤ n) (hm : phase.need cs.length ≤ m) :
    piecesFrom n phase raw cs = piecesFrom m phase raw cs := by
  have hbase (n : Nat) (hn : phase.need cs.length ≤ n) :
      piecesFrom n phase raw cs = piecesFrom (phase.need cs.length) phase raw cs := by
    induction n, hn using Nat.le_induction with
    | base => rfl
    | succ n hn ih => rw [piecesFrom_succ n phase raw cs hn, ih]
  rw [hbase n hn, hbase m hm]

/-- The pieces of a rest of the page, while feeding. -/
def piecesOf (raw : Option String) (cs : List Char) : List Piece :=
  piecesFrom (cs.length + 2) .feeding raw cs

theorem pieces_eq (page : List Char) : pieces page = piecesOf none page :=
  piecesFrom_eq (by simp only [Phase.need]; omega) (Nat.le_refl _)

/-- **What a step finds, and then the reading of what it leaves.** -/
theorem piecesOf_go {raw raw' : Option String} {found : List Piece} {rest : List Char}
    (hne : cs ≠ []) (h : next .feeding raw cs = .go found raw' rest) :
    piecesOf raw cs = found ++ piecesOf raw' rest := by
  have hwithin := within_next .feeding raw cs
  rw [h] at hwithin
  have hlt : rest.length < cs.length := hwithin
  rw [piecesOf, piecesFrom, if_neg (by simpa using hne), h]
  exact congrArg _ (piecesFrom_eq (by simp only [Phase.need]; omega) (Nat.le_refl _))

end StickerPages.Markup
