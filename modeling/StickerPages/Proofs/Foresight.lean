import StickerPages.Proofs.Closings

/-!
# How far a step looks ahead

What a step reads could depend on everything that follows. It does for a start tag. Every other step
is settled by what it reads and by the first character behind it (`next_swap`): markup ends at a
closing bracket that it has in itself, and a reference ends before a character that cannot belong to
it.

So another rest can be put behind such a step, if it begins like the one that was there (`Follows`).
-/

namespace StickerPages.Markup

open Content

variable {m rest t : List Char} {found : List Piece} {raw : Option String}

/-! ## What may come instead -/

/-- The second text begins like the first, except that a bracket may stand where a colon stood, and
a colon where a backslash stood. -/
def Follows (rest t : List Char) : Prop :=
  t.head? = rest.head? ∨ (rest.head? = some ':' ∧ t.head? = some '<') ∨
    (rest.head? = some '\\' ∧ t.head? = some ':')

/-- No kind of character but these three can tell the two texts apart. -/
theorem Follows.head {p : Char → Bool} (ht : Follows rest t) (hcolon : p ':' = false)
    (hopen : p '<' = false) (h : ∀ c ∈ rest.head?, p c = false) : ∀ c ∈ t.head?, p c = false := by
  intro c hc
  rcases ht with heq | ⟨-, heq⟩ | ⟨-, heq⟩
  · exact h c (heq ▸ hc)
  · rw [heq] at hc
    cases hc
    exact hopen
  · rw [heq] at hc
    cases hc
    exact hcolon

theorem Follows.ne_nil (ht : Follows rest t) (h : rest ≠ []) : t ≠ [] := by
  rintro rfl
  obtain ⟨c, r, rfl⟩ := List.exists_cons_of_ne_nil h
  rcases ht with heq | ⟨-, heq⟩ | ⟨-, heq⟩ <;> cases heq

theorem Follows.head?_eq (ht : Follows rest t) (hcolon : rest.head? ≠ some ':')
    (hslash : rest.head? ≠ some '\\') : t.head? = rest.head? := by
  rcases ht with heq | ⟨heq, -⟩ | ⟨heq, -⟩
  · exact heq
  · exact absurd heq hcolon
  · exact absurd heq hslash

/-! ## References -/

theorem dropSemicolon_eq_self {cs : List Char} (h : cs.head? ≠ some ';') :
    dropSemicolon cs = cs := by
  unfold dropSemicolon
  split
  · exact absurd rfl h
  · rfl

/-- A run of characters, and a semicolon perhaps, is cut off in the same way whatever follows it. -/
theorem run_swap {p : Char → Bool} (hp : [';', ':', '<'].any p = false)
    (ht : Follows rest t) (hleft : dropSemicolon ((m ++ rest).dropWhile p) = rest)
    (hne : (m ++ rest).dropWhile p ≠ []) :
    (m ++ t).takeWhile p = (m ++ rest).takeWhile p ∧ dropSemicolon ((m ++ t).dropWhile p) = t ∧
      Follows ((m ++ rest).dropWhile p) ((m ++ t).dropWhile p) := by
  have hends : ∀ c ∈ [';', ':', '<'], p c = false := fun c hc =>
    Bool.eq_false_iff.mpr (List.any_eq_false.mp hp c hc)
  have hcut := List.takeWhile_append_dropWhile (p := p) (l := m ++ rest)
  have hrun : ∀ c ∈ (m ++ rest).takeWhile p, p c = true := fun c hc => List.mem_takeWhile_imp hc
  have hhead : ∀ c ∈ ((m ++ rest).dropWhile p).head?, p c = false := by
    intro c hc
    have hnot := List.head?_dropWhile_not p (m ++ rest)
    rw [hc] at hnot
    simpa using hnot
  obtain ⟨c, r, hback⟩ := List.exists_cons_of_ne_nil hne
  generalize hrunEq : (m ++ rest).takeWhile p = run at hcut hrun ⊢
  rw [hback] at hcut hleft hhead ⊢
  by_cases hsemi : c = ';'
  · -- the semicolon is cut off as well
    subst hsemi
    obtain rfl : r = rest := hleft
    obtain rfl : m = run ++ [';'] := List.append_cancel_right (hcut.symm.trans (by simp))
    have hstop : ∀ c ∈ (';' :: t).head?, p c = false := by
      intro c hc
      cases hc
      exact hends _ (by decide)
    rw [List.append_assoc, List.singleton_append, takeWhile_run hrun hstop,
      dropWhile_run hrun hstop]
    exact ⟨rfl, rfl, .inl rfl⟩
  · have hself : dropSemicolon (c :: r) = c :: r :=
      dropSemicolon_eq_self fun heq => hsemi (Option.some.inj heq)
    rw [hself] at hleft
    obtain rfl : m = run := List.append_cancel_right (by rw [hcut, hleft])
    rw [hleft] at hhead ⊢
    have hstop : ∀ c ∈ t.head?, p c = false :=
      ht.head (hends _ (by decide)) (hends _ (by decide)) hhead
    have hnot : t.head? ≠ some ';' := by
      intro heq
      have hsemi' : (fun d => d == ';') ';' = false :=
        ht.head (p := fun d => d == ';') (by decide) (by decide)
          (by rw [← hleft]; simpa using hsemi) ';' heq
      cases hsemi'
    rw [takeWhile_run hrun hstop, dropWhile_run hrun hstop]
    exact ⟨rfl, dropSemicolon_eq_self hnot, ht⟩

theorem digits?_swap {isDigit : Char → Bool} {base : Nat} {text : List Char}
    (hdigit : [';', ':', '<'].any isDigit = false) (ht : Follows rest t)
    (h : digits? isDigit base (m ++ rest) = some (text, rest)) :
    digits? isDigit base (m ++ t) = some (text, t) := by
  obtain ⟨c, hback, h⟩ := Option.bind_eq_some_iff.mp h
  split at h
  · cases h
  · next hc =>
    obtain ⟨htext, hleft⟩ := Prod.mk.inj (Option.some.inj h)
    rw [Bool.or_eq_true, not_or, Bool.not_eq_true, Bool.not_eq_true] at hc
    have hne : (m ++ rest).dropWhile isDigit ≠ [] := by
      intro hnil
      rw [hnil] at hback
      cases hback
    obtain ⟨htake, hdrop, hfollows⟩ := run_swap hdigit ht hleft hne
    obtain ⟨c', r', hback'⟩ := List.exists_cons_of_ne_nil (hfollows.ne_nil hne)
    have hc' : Text.isHexDigit c' = false := by
      refine hfollows.head (by decide) (by decide) ?_ c' (by rw [hback']; rfl)
      rw [hback]
      rintro d hd
      cases hd
      exact hc.2
    rw [digits?, htake, hdrop, hback', List.head?_cons, Option.bind_some, hc.1, hc', htext]
    rfl

theorem numberedReference?_swap {text : List Char} (ht : Follows rest t)
    (h : numberedReference? (m ++ rest) = some (text, rest)) :
    numberedReference? (m ++ t) = some (text, t) := by
  cases m with
  | nil => exact absurd (length_numberedReference? h) (Nat.lt_irrefl _)
  | cons d m =>
      rw [List.cons_append] at h ⊢
      by_cases hd : d = 'x' ∨ d = 'X'
      · rw [numberedReference?_hex hd] at h ⊢
        exact digits?_swap (by decide) ht h
      · rw [numberedReference?_decimal hd] at h ⊢
        exact digits?_swap (m := d :: m) (by decide) ht h

/-- A name that some character ends is cut off there. -/
theorem namedReference?_eq_some {cs text : List Char} (hbound : ∃ c ∈ cs, isReferenceChar c = false)
    (h : namedReference? cs = some (text, rest)) :
    cs.dropWhile isReferenceChar ≠ [] ∧ dropSemicolon (cs.dropWhile isReferenceChar) = rest ∧
      ofName (String.ofList (cs.takeWhile isReferenceChar)) = text := by
  obtain ⟨c, hc, hnot⟩ := hbound
  have hmem : c ∈ cs.dropWhile isReferenceChar := mem_dropWhile hc hnot
  unfold namedReference? at h
  dsimp only at h
  split at h
  · next c r hback =>
    obtain ⟨htext, hleft⟩ := Prod.mk.inj (Option.some.inj h)
    rw [hback]
    exact ⟨List.cons_ne_nil c r, hleft, htext⟩
  · next hback =>
    rw [hback] at hmem
    cases hmem

theorem namedReference?_of_ne_nil {cs : List Char} (h : cs.dropWhile isReferenceChar ≠ []) :
    namedReference? cs = some (ofName (String.ofList (cs.takeWhile isReferenceChar)),
      dropSemicolon (cs.dropWhile isReferenceChar)) := by
  obtain ⟨c, r, hback⟩ := List.exists_cons_of_ne_nil h
  unfold namedReference?
  rw [hback]

theorem namedReference?_swap {text : List Char} (ht : Follows rest t)
    (hbound : ∃ c ∈ m ++ rest, isReferenceChar c = false)
    (h : namedReference? (m ++ rest) = some (text, rest)) :
    namedReference? (m ++ t) = some (text, t) := by
  obtain ⟨hne, hleft, htext⟩ := namedReference?_eq_some hbound h
  obtain ⟨htake, hdrop, hfollows⟩ := run_swap (by decide) ht hleft hne
  rw [namedReference?_of_ne_nil (hfollows.ne_nil hne), htake, hdrop, htext]

/-- A name takes its first character. -/
theorem length_lt_of_namedReference? {c : Char} {r text : List Char} (hc : isReferenceChar c = true)
    (hbound : ∃ d ∈ c :: r, isReferenceChar d = false)
    (h : namedReference? (c :: r) = some (text, rest)) : rest.length < (c :: r).length := by
  obtain ⟨-, hleft, -⟩ := namedReference?_eq_some hbound h
  rw [List.dropWhile_cons_of_pos hc] at hleft
  have hshort := length_dropSemicolon_le (r.dropWhile isReferenceChar)
  have hrun := length_dropWhile_le isReferenceChar r
  rw [hleft] at hshort
  exact Nat.lt_succ_of_le (Nat.le_trans hshort hrun)

section

variable {phase : Phase} {cs r text : List Char} {c : Char}

theorem reference_number (h : numberedReference? r = some (text, rest)) :
    reference phase ('#' :: r) = .go [.text text] none rest := by
  rw [reference, h]

theorem reference_name (hc : c.isAlpha = true) (h : namedReference? (c :: r) = some (text, rest)) :
    reference phase (c :: r) = .go [.text text] none rest := by
  unfold reference
  split
  · next heq =>
    cases heq
    exact absurd hc (by decide)
  · next heq =>
    cases heq
    rw [if_pos hc, h]
  · next heq => cases heq

theorem reference_alone (hc : c.isAlpha = false) (hsharp : c ≠ '#') :
    reference phase (c :: r) = .go [.text ['&']] none (c :: r) := by
  unfold reference
  split
  · next heq =>
    cases heq
    exact absurd rfl hsharp
  · next heq =>
    cases heq
    rw [if_neg (by rw [hc]; exact Bool.false_ne_true)]
  · next heq => cases heq

/-- What is read behind an ampersand is a number, a name or nothing. -/
theorem reference_cases (h : reference phase cs = .go found raw rest) : raw = none ∧
    ((∃ r text, cs = '#' :: r ∧ numberedReference? r = some (text, rest) ∧ found = [.text text]) ∨
      (∃ c r text, cs = c :: r ∧ c.isAlpha = true ∧ namedReference? (c :: r) = some (text, rest) ∧
        found = [.text text]) ∨
      ∃ c r, cs = c :: r ∧ c.isAlpha = false ∧ c ≠ '#' ∧ found = [.text ['&']] ∧ rest = cs) := by
  unfold reference at h
  split at h
  · split at h
    · next hread =>
      cases h
      exact ⟨rfl, .inl ⟨_, _, rfl, hread, rfl⟩⟩
    · split at h <;> cases h
  · next hsharp =>
    split at h
    · next halpha =>
      split at h
      · next hread =>
        cases h
        exact ⟨rfl, .inr (.inl ⟨_, _, _, rfl, halpha, hread, rfl⟩)⟩
      · split at h <;> cases h
    · next halpha =>
      cases h
      exact ⟨rfl, .inr (.inr ⟨_, _, rfl, Bool.eq_false_iff.mpr halpha, hsharp, rfl, rfl⟩)⟩
  · cases h

end

/-- **A reference is settled by what it reads and the character behind it**, unless its name runs to
the end of the page. -/
theorem reference_swap {raw' : Option String} (ht : Follows rest t)
    (hbound : ∃ c ∈ rest, isReferenceChar c = false)
    (h : reference .feeding (m ++ rest) = .go found raw' rest) :
    reference .feeding (m ++ t) = .go found raw' t := by
  obtain ⟨rfl, ⟨r, text, heq, hread, rfl⟩ | ⟨c, r, text, heq, hc, hread, rfl⟩ |
    ⟨c, r, heq, hc, hsharp, rfl, hrest⟩⟩ := reference_cases h
  · -- a number
    cases m with
    | nil =>
        have hshort := length_numberedReference? hread
        rw [List.nil_append] at heq
        rw [heq, List.length_cons] at hshort
        exact absurd hshort (by omega)
    | cons d m =>
        cases heq
        exact reference_number (numberedReference?_swap ht hread)
  · -- a name
    have hbound' : ∃ d ∈ c :: r, isReferenceChar d = false := by
      obtain ⟨e, he, hnot⟩ := hbound
      exact ⟨e, heq ▸ List.mem_append_right m he, hnot⟩
    cases m with
    | nil =>
        have hshort := length_lt_of_namedReference?
          (by simp [isReferenceChar, Char.isAlphanum, hc]) hbound' hread
        rw [← heq] at hshort
        exact absurd hshort (Nat.lt_irrefl _)
    | cons d m =>
        cases heq
        exact reference_name hc (namedReference?_swap (m := c :: m) ht hbound' hread)
  · -- the ampersand alone
    obtain rfl : m = [] := List.append_left_eq_self.mp hrest.symm
    rw [List.nil_append] at heq ⊢
    obtain ⟨d, u, rfl⟩ := List.exists_cons_of_ne_nil (ht.ne_nil (heq ▸ List.cons_ne_nil c r))
    have hplain : (d.isAlpha || d == '#') = false := by
      refine ht.head (p := fun d => d.isAlpha || d == '#') (by decide) (by decide) ?_ d rfl
      rw [heq]
      rintro e he
      cases he
      rw [Bool.or_eq_false_iff, beq_eq_false_iff_ne]
      exact ⟨hc, hsharp⟩
    rw [Bool.or_eq_false_iff, beq_eq_false_iff_ne] at hplain
    exact reference_alone hplain.1 hplain.2

/-! ## The reading -/

/-- A character of running text. -/
def isRunning (c : Char) : Bool := !(c == '<' || c == '&')

/-- The end of running text stays where it is. -/
theorem Follows.not_running (ht : Follows rest t) (h : ∀ c ∈ rest.head?, isRunning c = false) :
    ∀ c ∈ t.head?, isRunning c = false := by
  have hsame : t.head? = rest.head? :=
    ht.head?_eq (fun heq => absurd (h _ heq) (by decide)) fun heq => absurd (h _ heq) (by decide)
  rwa [hsame]

theorem next_running {run : List Char} (hne : run ≠ []) (hrun : ∀ c ∈ run, isRunning c = true)
    (hrest : ∀ c ∈ rest.head?, isRunning c = false) (phase : Phase) :
    next phase none (run ++ rest) = .go [.text run] none rest := by
  have htake : (run ++ rest).takeWhile (fun c => !(c == '<' || c == '&')) = run :=
    takeWhile_run hrun hrest
  have hdrop : (run ++ rest).dropWhile (fun c => !(c == '<' || c == '&')) = rest :=
    dropWhile_run hrun hrest
  unfold next
  dsimp only
  rw [htake, hdrop, if_pos (by simpa using hne)]

/-- The text begins with a start tag, or with what looks like one. -/
def opensTag : List Char → Bool
  | '<' :: c :: _ => c.isAlpha
  | _ => false

theorem next_opening (r : List Char) (h : opensMarkup r = true) {step : Step}
    (hstep : markup? r = some step) : next .feeding none ('<' :: r) = step := by
  simp [next, h, hstep]

/-- Running text ends where it ended. -/
theorem running_swap (ht : Follows rest t) (hne : (m ++ rest).takeWhile isRunning ≠ [])
    (hrest : (m ++ rest).dropWhile isRunning = rest) (phase : Phase) :
    next phase none (m ++ t) = .go [.text ((m ++ rest).takeWhile isRunning)] none t := by
  have hcut := List.takeWhile_append_dropWhile (p := isRunning) (l := m ++ rest)
  have hrun : ∀ c ∈ (m ++ rest).takeWhile isRunning, isRunning c = true :=
    fun c hc => List.mem_takeWhile_imp hc
  have hhead := List.head?_dropWhile_not isRunning (m ++ rest)
  rw [hrest] at hcut hhead
  rw [List.append_cancel_right hcut] at hrun hne ⊢
  have hstop : ∀ c ∈ rest.head?, isRunning c = false := by
    intro c hc
    rw [hc] at hhead
    simpa using hhead
  exact next_running hne hrun (ht.not_running hstop) phase

/-- A bracket that opens nothing opens nothing in front of the other text either. -/
theorem bracket_swap (ht : Follows rest t) (hopens : opensMarkup rest = false) (hne : rest ≠ [])
    (phase : Phase) : next phase none ('<' :: t) = .go [.text ['<']] none t := by
  obtain ⟨c, u, rfl⟩ := List.exists_cons_of_ne_nil (ht.ne_nil hne)
  have hplain : opensMarkup (c :: u) = false := by
    refine ht.head (p := fun c => c.isAlpha || c == '/' || c == '!' || c == '?')
      (by decide) (by decide) ?_ c rfl
    intro e he
    obtain ⟨v, rfl⟩ := List.head?_eq_some_iff.mp he
    exact hopens
  simp [next, hplain]

/-- **Every step but a start tag reads the same in front of any rest that begins like the one that
was there**, except in front of letters alone, with which a reference could go on. -/
theorem next_swap (hraw : ∀ name ∈ raw, name ∈ rawNames) {raw' : Option String}
    (htag : raw = none → opensTag (m ++ rest) = false) (ht : Follows rest t)
    (hbound : ∃ c ∈ rest, isReferenceChar c = false)
    (h : next .feeding raw (m ++ rest) = .go found raw' rest) :
    next .feeding raw (m ++ t) = .go found raw' t := by
  have hshort : rest.length < (m ++ rest).length := by
    have hwithin := within_next .feeding raw (m ++ rest)
    rw [h] at hwithin
    exact hwithin
  obtain ⟨d, m, rfl⟩ : ∃ d m', m = d :: m' := by
    refine List.exists_cons_of_ne_nil ?_
    rintro rfl
    exact Nat.lt_irrefl _ hshort
  unfold next at h
  split at h
  · next name => exact nextRaw_swap (hraw name rfl) h t
  · dsimp only at h
    split at h
    · -- running text
      next hbefore =>
      obtain ⟨rfl, rfl, hrest⟩ := Step.go.inj h
      exact running_swap ht (by simpa [isRunning] using hbefore) hrest .feeding
    · next hbefore =>
      split at h
      · next r heq =>
        cases heq
        split at h
        · next hopens =>
          -- markup
          split at h
          · next step hmarkup =>
            have hletter : ∀ c ∈ (m ++ rest).head?, c.isAlpha = false := by
              intro c hc
              obtain ⟨u, hu⟩ := List.head?_eq_some_iff.mp hc
              have := htag rfl
              rw [List.cons_append, hu] at this
              exact this
            obtain ⟨hopens', hmarkup'⟩ := markup?_swap hletter hopens (h ▸ hmarkup) t
            exact next_opening _ hopens' hmarkup'
          · cases h
        · next hopens =>
          -- the bracket alone
          split at h
          · cases h
          · next hsome =>
            obtain ⟨rfl, rfl, hrest⟩ := Step.go.inj h
            obtain rfl : m = [] := List.append_left_eq_self.mp hrest
            exact bracket_swap ht (Bool.eq_false_iff.mpr hopens)
              (fun heq => hsome (by rw [heq]; rfl)) .feeding
      · next r heq =>
        cases heq
        have hread := reference_swap ht hbound h
        simpa [next] using hread
      · cases h

/-! ## Raw content -/

section

variable {cs : List Char} {step : Step}

/-- The element whose raw content follows a step. -/
def Step.raw? : Step → Option String
  | .go _ raw _ => raw
  | .stopAt _ _ => none

theorem raw_startTag? (h : startTag? cs = some step) : ∀ name ∈ step.raw?, name ∈ rawNames := by
  unfold startTag? at h
  grind [Step.raw?]

theorem raw_stopTag? (h : stopTag? cs = some step) : step.raw? = none := by
  unfold stopTag? at h
  grind [Step.raw?]

theorem raw_markedSection? (h : markedSection? cs = some step) : step.raw? = none := by
  obtain ⟨tail?, found, -, -, rfl⟩ := markedSection?_eq_some h
  unfold sectionNote
  split <;> rfl

theorem raw_declaration? (h : declaration? cs = some step) : step.raw? = none := by
  unfold declaration? at h
  split at h
  · obtain ⟨found, -, rfl⟩ := Option.map_eq_some_iff.mp h
    rfl
  · exact raw_markedSection? h
  · obtain ⟨found, -, rfl⟩ := Option.map_eq_some_iff.mp h
    dsimp only
    split <;> rfl

theorem raw_markup? (h : markup? cs = some step) : ∀ name ∈ step.raw?, name ∈ rawNames := by
  have hnone (h : step.raw? = none) : ∀ name ∈ step.raw?, name ∈ rawNames := by
    rw [h]
    intro name hname
    cases hname
  unfold markup? at h
  split at h
  · exact hnone (raw_stopTag? h)
  · exact hnone (raw_declaration? h)
  · obtain ⟨found, -, rfl⟩ := Option.map_eq_some_iff.mp h
    exact hnone rfl
  · exact raw_startTag? h

theorem raw_reference (phase : Phase) (cs : List Char) : (reference phase cs).raw? = none := by
  unfold reference
  grind [Step.raw?]

theorem raw_cutShort (cs : List Char) : (cutShort cs).raw? = none := by
  unfold cutShort
  grind [Step.raw?]

/-- **Only script and style sheets have raw content.** -/
theorem raw_next {phase : Phase} {raw : Option String} (hraw : ∀ name ∈ raw, name ∈ rawNames)
    (cs : List Char) : ∀ name ∈ (next phase raw cs).raw?, name ∈ rawNames := by
  unfold next nextRaw
  grind [Step.raw?, raw_markup?, raw_reference, raw_cutShort]

end

end StickerPages.Markup
