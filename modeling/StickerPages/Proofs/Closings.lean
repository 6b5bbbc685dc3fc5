import StickerPages.Proofs.Pictures
import StickerPages.Proofs.Strides

/-!
# Markup has its end in itself

An end tag, a comment, a declaration and the raw content of an element all end at a closing bracket,
and the search for that bracket does not look beyond it: where a text has a closing bracket, it can
be said from the text alone whether such an end stands at its start (`Closing`).

So these pieces of markup are read in the same way whatever stands behind them (`markup?_swap`,
`nextRaw_swap`). A start tag is not among them: a quote mark that is not closed in the tag is looked
for in the whole rest of the page.
-/

namespace StickerPages.Markup

open Content

variable {x y m rest inside after : List Char} {found : List Piece} {raw : Option String}

/-! ## Searches that end at a closing bracket -/

section

variable {p : Char → Bool} {c : Char}

theorem takeWhile_append_of_mem (hc : c ∈ x) (hp : p c = false) (t : List Char) :
    (x ++ t).takeWhile p = x.takeWhile p := by
  induction x with
  | nil => cases hc
  | cons d r ih =>
      rw [List.cons_append, List.takeWhile_cons, List.takeWhile_cons]
      rcases List.mem_cons.mp hc with rfl | hc
      · rw [hp]
        rfl
      · rw [ih hc]

theorem dropWhile_append_of_mem (hc : c ∈ x) (hp : p c = false) (t : List Char) :
    (x ++ t).dropWhile p = x.dropWhile p ++ t := by
  induction x with
  | nil => cases hc
  | cons d r ih =>
      rw [List.cons_append, List.dropWhile_cons, List.dropWhile_cons]
      rcases List.mem_cons.mp hc with rfl | hc
      · rw [hp]
        rfl
      · rw [ih hc]
        split <;> rfl

theorem mem_dropWhile (hc : c ∈ x) (hp : p c = false) : c ∈ x.dropWhile p := by
  rw [← List.takeWhile_append_dropWhile (p := p) (l := x), List.mem_append] at hc
  refine hc.resolve_left fun hmem => ?_
  rw [List.mem_takeWhile_imp hmem] at hp
  cases hp

end

theorem blanksThen?_eq_some {c : Char} {cs r : List Char} (h : blanksThen? c cs = some r) :
    ∃ b, (∀ d ∈ b, Text.isBlank d = true) ∧ cs = b ++ c :: r := by
  refine ⟨cs.takeWhile Text.isBlank, fun d hd => List.mem_takeWhile_imp hd, ?_⟩
  unfold blanksThen? at h
  split at h
  · next d r' hd =>
    split at h
    · next hc =>
      cases h
      rw [Text.trimLeft] at hd
      rw [← hc, ← hd, List.takeWhile_append_dropWhile]
    · cases h
  · cases h

theorem blanksThen?_append {c : Char} (hx : '>' ∈ x) (t : List Char) :
    blanksThen? c (x ++ t) = (blanksThen? c x).map (· ++ t) := by
  have htrim : Text.trimLeft (x ++ t) = Text.trimLeft x ++ t :=
    dropWhile_append_of_mem hx (by decide) t
  have hmem : '>' ∈ Text.trimLeft x := mem_dropWhile hx (by decide)
  unfold blanksThen?
  rw [htrim]
  cases hcut : Text.trimLeft x with
  | nil =>
      rw [hcut] at hmem
      cases hmem
  | cons d r =>
      rw [List.cons_append]
      dsimp only
      split <;> rfl

/-- An end that is a closing bracket with something in front of it. Whether a text with a closing
bracket in it begins with such an end can be said from the text alone. -/
structure Closing (tail? : List Char → Option (List Char)) : Prop where
  decided : ∀ {x : List Char}, '>' ∈ x → ∀ t, tail? (x ++ t) = (tail? x).map (· ++ t)
  closes : ∀ {cs r : List Char}, tail? cs = some r → ∃ y, cs = y ++ '>' :: r

theorem closing_blanksThen : Closing (blanksThen? '>') where
  decided hx t := blanksThen?_append hx t
  closes h := by
    obtain ⟨b, -, rfl⟩ := blanksThen?_eq_some h
    exact ⟨b, rfl⟩

/-- An end with something in front of it that cannot go past a closing bracket. -/
theorem closing_bind {front? : List Char → Option (List Char)}
    (hfront : ∀ {x : List Char}, '>' ∈ x → ∀ t, front? (x ++ t) = (front? x).map (· ++ t))
    (hmem : ∀ {x r : List Char}, '>' ∈ x → front? x = some r → '>' ∈ r)
    (hcut : ∀ {cs r : List Char}, front? cs = some r → ∃ b, cs = b ++ r) :
    Closing fun cs => front? cs >>= blanksThen? '>' where
  decided {x} hx t := by
    rw [hfront hx]
    cases hread : front? x with
    | none => rfl
    | some r => exact blanksThen?_append (hmem hx hread) t
  closes {cs r} h := by
    obtain ⟨r', hr', hr⟩ := Option.bind_eq_some_iff.mp h
    obtain ⟨b, rfl⟩ := hcut hr'
    obtain ⟨b', -, rfl⟩ := blanksThen?_eq_some hr
    exact ⟨b ++ b', by simp⟩

/-- What stands behind one given character. -/
def behind (c : Char) (tail? : List Char → Option (List Char)) : List Char → Option (List Char)
  | d :: r => if d = c then tail? r else none
  | [] => none

theorem Closing.behind {tail? : List Char → Option (List Char)} (h : Closing tail?) {c : Char}
    (hc : c ≠ '>') : Closing (behind c tail?) where
  decided {x} hx t := by
    match x, hx with
    | d :: x, hx =>
        rw [List.cons_append, Markup.behind, Markup.behind]
        split
        · next hd =>
          have hmem : '>' ∈ x :=
            (List.mem_cons.mp hx).resolve_left fun heq => hc (hd.symm.trans heq.symm)
          exact h.decided hmem t
        · rfl
  closes {cs r} hr := by
    match cs, hr with
    | d :: cs, hr =>
        rw [Markup.behind] at hr
        split at hr
        · obtain ⟨y, rfl⟩ := h.closes hr
          exact ⟨d :: y, rfl⟩
        · cases hr

/-- Behind another character than a bracket the bracket is still to come. -/
theorem mem_of_blanksThen? {c : Char} (hc : c ≠ '>') {r : List Char} (hx : '>' ∈ x)
    (h : blanksThen? c x = some r) : '>' ∈ r := by
  obtain ⟨b, hblank, rfl⟩ := blanksThen?_eq_some h
  rcases List.mem_append.mp hx with hb | hr
  · exact absurd (hblank _ hb) (by decide)
  · exact (List.mem_cons.mp hr).resolve_left (Ne.symm hc)

theorem dropName?_append {name : List Char} (hname : ∀ a ∈ name, foldsTo a '>' = false)
    (hx : '>' ∈ x) (t : List Char) : dropName? name (x ++ t) = (dropName? name x).map (· ++ t) := by
  induction name generalizing x with
  | nil => rfl
  | cons a name ih =>
      rw [List.forall_mem_cons] at hname
      match x, hx with
      | c :: x, hx =>
          rw [List.cons_append, dropName?, dropName?]
          split
          · next hfold =>
            refine ih hname.2 ((List.mem_cons.mp hx).resolve_left ?_)
            rintro rfl
            rw [hname.1] at hfold
            cases hfold
          · rfl

theorem mem_of_dropName? {name r : List Char} (hname : ∀ a ∈ name, foldsTo a '>' = false)
    (hx : '>' ∈ x) (h : dropName? name x = some r) : '>' ∈ r := by
  induction name generalizing x with
  | nil =>
      cases h
      exact hx
  | cons a name ih =>
      rw [List.forall_mem_cons] at hname
      match x, hx with
      | c :: x, hx =>
          rw [dropName?] at h
          split at h
          · next hfold =>
            refine ih hname.2 ((List.mem_cons.mp hx).resolve_left ?_) h
            rintro rfl
            rw [hname.1] at hfold
            cases hfold
          · cases h

theorem dropName?_eq_some {name cs r : List Char} (h : dropName? name cs = some r) :
    ∃ b, cs = b ++ r := by
  induction name generalizing cs with
  | nil =>
      cases h
      exact ⟨[], rfl⟩
  | cons a name ih =>
      cases cs with
      | nil => cases h
      | cons c cs =>
          rw [dropName?] at h
          split at h
          · obtain ⟨b, rfl⟩ := ih h
            exact ⟨c :: b, rfl⟩
          · cases h

theorem closing_commentEnd : Closing commentEnd? := by
  have heq : commentEnd? = behind '-' (behind '-' (blanksThen? '>')) := by
    funext cs
    unfold commentEnd? behind
    grind
  rw [heq]
  exact (closing_blanksThen.behind (by decide)).behind (by decide)

theorem closing_conditionEnd : Closing conditionEnd? := by
  have heq : conditionEnd? = behind ']' (blanksThen? '>') := by
    funext cs
    unfold conditionEnd? behind
    grind
  rw [heq]
  exact closing_blanksThen.behind (by decide)

theorem closing_sectionEnd : Closing sectionEnd? := by
  have heq : sectionEnd? = behind ']' fun r => blanksThen? ']' r >>= blanksThen? '>' := by
    funext cs
    unfold sectionEnd? behind
    grind
  have hcut {cs r : List Char} (h : blanksThen? ']' cs = some r) : ∃ b, cs = b ++ r := by
    obtain ⟨b, -, rfl⟩ := blanksThen?_eq_some h
    exact ⟨b ++ [']'], by simp⟩
  rw [heq]
  exact (closing_bind blanksThen?_append (mem_of_blanksThen? (by decide)) hcut).behind (by decide)

/-- The raw content of an element ends at a closing bracket too. -/
theorem closing_rawStop {name : String} (hname : name ∈ rawNames) : Closing (rawStop? name) := by
  have hfold : ∀ a ∈ name.toList, foldsTo a '>' = false := by
    have hall : ∀ s ∈ rawNames, (s.toList.any fun a => foldsTo a '>') = false := by decide
    exact fun a ha => Bool.eq_false_iff.mpr (List.any_eq_false.mp (hall name hname) a ha)
  have heq : rawStop? name = behind '<' (behind '/' fun r =>
      dropName? name.toList (Text.trimLeft r) >>= blanksThen? '>') := by
    funext cs
    unfold rawStop? behind
    grind
  have htrim {x : List Char} (hx : '>' ∈ x) (t : List Char) :
      Text.trimLeft (x ++ t) = Text.trimLeft x ++ t := dropWhile_append_of_mem hx (by decide) t
  have hleft {x : List Char} (hx : '>' ∈ x) : '>' ∈ Text.trimLeft x := mem_dropWhile hx (by decide)
  have hcut {cs r : List Char} (h : dropName? name.toList (Text.trimLeft cs) = some r) :
      ∃ b, cs = b ++ r := by
    obtain ⟨b, hb⟩ := dropName?_eq_some h
    refine ⟨cs.takeWhile Text.isBlank ++ b, ?_⟩
    rw [List.append_assoc, ← hb, Text.trimLeft, List.takeWhile_append_dropWhile]
  have hname : Closing fun r => dropName? name.toList (Text.trimLeft r) >>= blanksThen? '>' :=
    closing_bind (fun hx t => by rw [htrim hx, dropName?_append hfold (hleft hx)])
      (fun hx h => mem_of_dropName? hfold (hleft hx) h) hcut
  rw [heq]
  exact (hname.behind (by decide)).behind (by decide)

section

variable {tail? : List Char → Option (List Char)}

theorem Closing.shortens (h : Closing tail?) : Shortens tail? := by
  intro cs r hr
  obtain ⟨y, rfl⟩ := h.closes hr
  rw [List.length_append, List.length_cons]
  omega

theorem splitWhere?_eq_some {cs : List Char} (h : splitWhere? tail? cs = some (inside, after)) :
    ∃ e, cs = inside ++ e ∧ tail? e = some after := by
  induction cs generalizing inside with
  | nil =>
      obtain ⟨r, hr, heq⟩ := Option.map_eq_some_iff.mp h
      cases heq
      exact ⟨[], rfl, hr⟩
  | cons c r ih =>
      rw [splitWhere?] at h
      split at h
      · next r' hr' =>
        cases h
        exact ⟨c :: r, rfl, hr'⟩
      · obtain ⟨found, hfound, heq⟩ := Option.map_eq_some_iff.mp h
        cases heq
        obtain ⟨e, rfl, he⟩ := ih hfound
        exact ⟨e, rfl, he⟩

/-- The search for such an end stops behind a closing bracket. -/
theorem Closing.splitWhere?_eq_some (hend : Closing tail?) {cs : List Char}
    (h : splitWhere? tail? cs = some (inside, after)) :
    ∃ e, cs = inside ++ (e ++ '>' :: after) := by
  obtain ⟨e, rfl, he⟩ := Markup.splitWhere?_eq_some h
  obtain ⟨y, rfl⟩ := hend.closes he
  exact ⟨y, rfl⟩

/-- **The search finds the same end whatever stands behind it.** -/
theorem Closing.splitWhere?_swap (hend : Closing tail?) (t : List Char)
    (h : splitWhere? tail? (y ++ '>' :: rest) = some (inside, rest)) :
    splitWhere? tail? (y ++ '>' :: t) = some (inside, t) := by
  -- an end that leaves nothing but the rest lies in the text itself, and so does its absence
  have hlone (x : List Char) (hx : '>' ∈ x) (hr : tail? (x ++ rest) = some rest) :
      tail? (x ++ t) = some t := by
    rw [hend.decided hx] at hr ⊢
    obtain ⟨b, hb, hrest⟩ := Option.map_eq_some_iff.mp hr
    obtain rfl : b = [] := List.append_left_eq_self.mp hrest
    rw [hb]
    rfl
  have hnone (x : List Char) (hx : '>' ∈ x) (hr : tail? (x ++ rest) = none) :
      tail? (x ++ t) = none := by
    rw [hend.decided hx] at hr ⊢
    rw [Option.map_eq_none_iff.mp hr]
    rfl
  induction y generalizing inside with
  | nil =>
      rw [List.nil_append, splitWhere?] at h ⊢
      split at h
      · next r hr =>
        cases h
        have hsame : tail? ('>' :: t) = some t := hlone ['>'] (List.mem_singleton.mpr rfl) hr
        rw [hsame]
      · obtain ⟨found, hfound, heq⟩ := Option.map_eq_some_iff.mp h
        cases heq
        exact absurd (length_splitWhere? hend.shortens hfound) (Nat.lt_irrefl _)
  | cons c y ih =>
      have hsplit (u : List Char) : c :: y ++ '>' :: u = (c :: (y ++ ['>'])) ++ u := by simp
      have hmem : '>' ∈ c :: (y ++ ['>']) := by simp
      rw [List.cons_append, splitWhere?] at h ⊢
      split at h
      · next r hr =>
        cases h
        rw [← List.cons_append, hsplit] at hr ⊢
        rw [hlone _ hmem hr]
      · next hr =>
        obtain ⟨found, hfound, heq⟩ := Option.map_eq_some_iff.mp h
        cases heq
        rw [← List.cons_append, hsplit] at hr ⊢
        rw [hnone _ hmem hr, ih hfound]
        rfl

end

/-! ## Markup -/

/-- Whenever such a reader leaves all that stands behind what it read, it reads the same in front of
anything else. -/
def Swaps (read? : List Char → Option Step) : Prop :=
  ∀ {m rest : List Char} {found : List Piece} {raw : Option String},
    read? (m ++ rest) = some (.go found raw rest) → ∀ t, read? (m ++ t) = some (.go found raw t)

theorem plainStop?_append (hx : '>' ∈ x) (t : List Char) :
    plainStop? (x ++ t) = (plainStop? x).map fun r => (r.1, r.2 ++ t) := by
  have htrim : Text.trimLeft (x ++ t) = Text.trimLeft x ++ t :=
    dropWhile_append_of_mem hx (by decide) t
  have hmem : '>' ∈ Text.trimLeft x := mem_dropWhile hx (by decide)
  unfold plainStop?
  dsimp only
  rw [htrim, takeWhile_append_of_mem hmem (by decide), dropWhile_append_of_mem hmem (by decide),
    blanksThen?_append (mem_dropWhile hmem (by decide))]
  cases hcut : Text.trimLeft x with
  | nil =>
      rw [hcut] at hmem
      cases hmem
  | cons c r =>
      rw [List.cons_append]
      dsimp only
      split
      · rw [Option.map_map, Option.map_map]
        rfl
      · rfl

/-- A plain end tag ends at the first closing bracket. -/
theorem plainStop?_eq_some {cs name r : List Char} (h : plainStop? cs = some (name, r)) :
    ∃ y, cs = y ++ '>' :: r ∧ '>' ∉ y := by
  unfold plainStop? at h
  dsimp only at h
  split at h
  · split at h
    · obtain ⟨r', hr', heq⟩ := Option.map_eq_some_iff.mp h
      cases heq
      obtain ⟨b, hb, hcut⟩ := blanksThen?_eq_some hr'
      have hname := List.takeWhile_append_dropWhile (p := isStopNameChar) (l := Text.trimLeft cs)
      have hblank := List.takeWhile_append_dropWhile (p := Text.isBlank) (l := cs)
      rw [hcut] at hname
      rw [Text.trimLeft] at hname
      rw [← hname] at hblank
      refine ⟨_, by rw [← List.append_assoc, ← List.append_assoc] at hblank; exact hblank.symm, ?_⟩
      simp only [List.mem_append, not_or]
      refine ⟨⟨fun hmem => ?_, fun hmem => ?_⟩, fun hmem => ?_⟩
      · exact absurd (List.mem_takeWhile_imp hmem) (by decide)
      · exact absurd (List.mem_takeWhile_imp hmem) (by decide)
      · exact absurd (hb _ hmem) (by decide)
    · cases h
  · cases h

theorem splitAtChar?_not_mem {c : Char} {cs : List Char}
    (h : splitAtChar? c cs = some (inside, after)) : c ∉ inside := by
  induction cs generalizing inside with
  | nil => cases h
  | cons d r ih =>
      rw [splitAtChar?] at h
      split at h
      · cases h
        exact List.not_mem_nil
      · next hd =>
        obtain ⟨found, hfound, heq⟩ := Option.map_eq_some_iff.mp h
        cases heq
        rw [List.mem_cons, not_or]
        exact ⟨Ne.symm hd, ih hfound⟩

/-- An end tag leaves what stands behind its closing bracket. -/
theorem stopTag?_eq_some {cs : List Char} {step : Step} (h : stopTag? cs = some step) :
    ∃ y, cs = y ++ '>' :: step.left ∧ '>' ∉ y := by
  unfold stopTag? at h
  split at h
  · cases h
  · next inside after hsplit =>
    have hfirst : ∃ y, cs = y ++ '>' :: after ∧ '>' ∉ y :=
      ⟨inside, splitAtChar?_eq_some hsplit, splitAtChar?_not_mem hsplit⟩
    split at h
    · next hplain =>
      cases h
      exact plainStop?_eq_some hplain
    · split at h
      · split at h
        · cases h
          exact hfirst
        · split at h
          · cases h
            exact hfirst
          · cases h
            exact hfirst
      · cases h

theorem swaps_stopTag : Swaps stopTag? := by
  intro m rest found raw h t
  obtain ⟨y, hm, hy⟩ := stopTag?_eq_some h
  obtain rfl : m = y ++ ['>'] := List.append_cancel_right (hm.trans (by simp [Step.left]))
  have hmem : '>' ∈ y ++ ['>'] := by simp
  have hsplit (u : List Char) : splitAtChar? '>' (y ++ ['>'] ++ u) = some (y, u) := by
    rw [List.append_assoc, List.singleton_append, splitAtChar?_append hy]
  have hname (u : List Char) : (y ++ ['>'] ++ u).takeWhile (fun d => !endsTagName d) =
      (y ++ ['>']).takeWhile fun d => !endsTagName d :=
    takeWhile_append_of_mem hmem (by decide) u
  unfold stopTag? at h ⊢
  rw [hsplit, plainStop?_append hmem, hname] at h ⊢
  obtain ⟨c, r, hcons⟩ := List.exists_cons_of_ne_nil (List.ne_nil_of_mem hmem)
  rw [hcons] at h ⊢
  cases hplain : plainStop? (c :: r) with
  | some found' =>
      rw [hplain] at h
      simp only [Option.map_some, Option.some.injEq, Step.go.injEq] at h ⊢
      obtain ⟨hfound, hraw, hrest⟩ := h
      obtain hnil : found'.2 = [] := List.append_left_eq_self.mp hrest
      rw [hnil]
      exact ⟨hfound, hraw, rfl⟩
  | none =>
      rw [hplain] at h
      simp only [Option.map_none, List.cons_append] at h ⊢
      split at h
      · next halpha =>
        cases h
        rw [if_pos halpha]
      · next halpha =>
        rw [if_neg halpha]
        split at h
        · next hend =>
          cases h
          rw [if_pos hend]
        · next hend =>
          cases h
          rw [if_neg hend]

theorem sectionNote_swap (h : sectionNote (inside, after) = .go found raw after)
    (after' : List Char) : sectionNote (inside, after') = .go found raw after' := by
  unfold sectionNote at h ⊢
  dsimp only at h ⊢
  split at h
  · next hc =>
    cases h
    rw [if_pos hc]
  · next hc =>
    cases h
    rw [if_neg hc]

theorem swaps_markedSection : Swaps markedSection? := by
  intro m rest found raw h t
  obtain ⟨tail?, ⟨inside, after⟩, htail, hfound, hnote⟩ := markedSection?_eq_some h
  have hend : Closing tail? := by
    rcases sectionTail?_eq_some htail with rfl | rfl
    · exact closing_sectionEnd
    · exact closing_conditionEnd
  obtain rfl : after = rest := (left_sectionNote _).symm.trans (congrArg Step.left hnote)
  obtain ⟨e, he⟩ := hend.splitWhere?_eq_some hfound
  generalize hy : inside ++ e = y
  rw [← List.append_assoc, hy] at he
  obtain rfl : m = y ++ ['>'] := List.append_cancel_right (he.trans (by simp))
  -- the keyword and what stands behind it end in front of the bracket
  have hmem : '>' ∈ y ++ ['>'] := by simp
  have hword (u : List Char) : (y ++ ['>'] ++ u).takeWhile isKeywordChar =
      (y ++ ['>']).takeWhile isKeywordChar := takeWhile_append_of_mem hmem (by decide) u
  have hsome : (Text.trimLeft ((y ++ ['>'] ++ t).dropWhile isKeywordChar)).isEmpty = false := by
    have hleft : '>' ∈ Text.trimLeft ((y ++ ['>'] ++ t).dropWhile isKeywordChar) :=
      mem_dropWhile (mem_dropWhile (List.mem_append_left t hmem) (by decide)) (by decide)
    simpa using List.ne_nil_of_mem hleft
  have hcut (u : List Char) : y ++ ['>'] ++ u = y ++ '>' :: u := by simp
  rw [hword] at htail
  rw [hcut] at hfound
  rw [markedSection?_eq, hword, htail, Option.bind_some, hsome, if_neg Bool.false_ne_true, hcut,
    hend.splitWhere?_swap t hfound, Option.map_some, sectionNote_swap hnote]

theorem swaps_declaration : Swaps declaration? := by
  intro m rest found raw h t
  unfold declaration? at h
  split at h
  · -- a comment
    next r heq =>
    obtain ⟨⟨inside, after⟩, hfound, hstep⟩ := Option.map_eq_some_iff.mp h
    cases hstep
    obtain ⟨e, rfl⟩ := closing_commentEnd.splitWhere?_eq_some hfound
    obtain rfl : m = '-' :: '-' :: (inside ++ e ++ ['>']) :=
      List.append_cancel_right (heq.trans (by simp))
    rw [← List.append_assoc] at hfound
    have hswap := closing_commentEnd.splitWhere?_swap t hfound
    rw [List.append_assoc] at hswap
    simp [declaration?, hswap]
  · -- a marked section
    next r heq =>
    have hshort := length_markedSection? h
    cases m with
    | nil =>
        rw [List.nil_append] at heq
        rw [heq] at hshort
        exact absurd hshort (Nat.not_succ_le_self _)
    | cons c m =>
        rw [List.cons_append] at heq
        obtain ⟨rfl, rfl⟩ := List.cons.inj heq
        exact swaps_markedSection h t
  · -- anything up to a closing bracket
    next hcomment hsection =>
    obtain ⟨⟨inside, after⟩, hfound, hstep⟩ := Option.map_eq_some_iff.mp h
    obtain rfl : after = rest := by
      dsimp only at hstep
      split at hstep <;> cases hstep <;> rfl
    have hcs := splitAtChar?_eq_some hfound
    obtain rfl : m = inside ++ ['>'] := List.append_cancel_right (hcs.trans (by simp))
    have hcut (u : List Char) : inside ++ ['>'] ++ u = inside ++ '>' :: u := by simp
    rw [hcut] at hcomment hsection
    unfold declaration?
    rw [hcut]
    split
    · next r heq =>
      match inside, heq with
      | [], heq => cases heq
      | [_], heq => cases heq
      | c :: d :: i, heq =>
          cases heq
          exact absurd rfl (hcomment _)
    · next r heq =>
      match inside, heq with
      | [], heq => cases heq
      | c :: i, heq =>
          cases heq
          exact absurd rfl (hsection _)
    · rw [splitAtChar?_append (splitAtChar?_not_mem hfound), Option.map_some]
      dsimp only at hstep ⊢
      split at hstep
      · next hc =>
        cases hstep
        rw [if_pos hc]
      · next hc =>
        cases hstep
        rw [if_neg hc]

/-- What is read up to the next closing bracket. -/
theorem swaps_splitAtChar {f : List Char → List Piece} :
    Swaps fun cs => (splitAtChar? '>' cs).map fun (inside, after) => .go (f inside) none after := by
  intro m rest found raw h t
  obtain ⟨⟨inside, after⟩, hfound, heq⟩ := Option.map_eq_some_iff.mp h
  cases heq
  obtain rfl : m = inside ++ ['>'] :=
    List.append_cancel_right ((splitAtChar?_eq_some hfound).trans (by simp))
  have hcut : inside ++ ['>'] ++ t = inside ++ '>' :: t := by simp
  dsimp only
  rw [hcut, splitAtChar?_append (splitAtChar?_not_mem hfound)]
  rfl

/-- Markup that is no start tag has a mark behind its bracket, and a reader that goes with it. -/
theorem exists_reader {c : Char} (hletter : c.isAlpha = false)
    (hopens : opensMarkup [c] = true) :
    ∃ read?, Swaps read? ∧ (∀ r, markup? (c :: r) = read? r) ∧
      ∀ r step, read? r = some step → step.left.length ≤ r.length := by
  have hmark : c = '/' ∨ c = '!' ∨ c = '?' := by
    simpa [opensMarkup, hletter, or_assoc] using hopens
  rcases hmark with rfl | rfl | rfl
  · exact ⟨stopTag?, swaps_stopTag, fun _ => rfl, fun _ _ => length_stopTag?⟩
  · exact ⟨declaration?, swaps_declaration, fun _ => rfl, fun _ _ => length_declaration?⟩
  · refine ⟨_, swaps_splitAtChar (f := fun inside => [.note .instruction inside]),
      fun _ => rfl, fun r step h => ?_⟩
    obtain ⟨found, hfound, heq⟩ := Option.map_eq_some_iff.mp h
    rw [← heq]
    exact Nat.le_of_lt (length_splitAtChar? hfound)

/-- Markup that is no start tag has its end in itself. -/
theorem markup?_swap {raw' : Option String} (hletter : ∀ c ∈ (m ++ rest).head?, c.isAlpha = false)
    (hopens : opensMarkup (m ++ rest) = true) (h : markup? (m ++ rest) = some (.go found raw' rest))
    (t : List Char) :
    opensMarkup (m ++ t) = true ∧ markup? (m ++ t) = some (.go found raw' t) := by
  cases m with
  | nil =>
      obtain ⟨c, r, rfl⟩ : ∃ c r, rest = c :: r :=
        List.exists_cons_of_ne_nil (by rintro rfl; cases hopens)
      obtain ⟨read?, -, hread, hshort⟩ := exists_reader (hletter c rfl) hopens
      rw [List.nil_append, hread] at h
      exact absurd (hshort r _ h) (Nat.not_succ_le_self _)
  | cons c m =>
      obtain ⟨read?, hswap, hread, -⟩ := exists_reader (hletter c rfl) hopens
      rw [List.cons_append, hread] at h ⊢
      exact ⟨hopens, hswap h t⟩

theorem nextRaw_swap {name : String} (hname : name ∈ rawNames) {raw' : Option String}
    (h : nextRaw name (m ++ rest) = .go found raw' rest) (t : List Char) :
    nextRaw name (m ++ t) = .go found raw' t := by
  have hend := closing_rawStop hname
  unfold nextRaw at h
  split at h
  · cases h
  · next inside after hfound =>
    obtain rfl : after = rest := by
      dsimp only at h
      split at h <;> cases h <;> rfl
    obtain ⟨e, he⟩ := hend.splitWhere?_eq_some hfound
    obtain rfl : m = inside ++ e ++ ['>'] := List.append_cancel_right (he.trans (by simp))
    have hfound' : splitWhere? (rawStop? name) (inside ++ e ++ ['>'] ++ t) = some (inside, t) := by
      rw [List.append_assoc, List.singleton_append] at hfound ⊢
      exact hend.splitWhere?_swap t hfound
    -- the end tag lies between what was passed over and what is left
    have htag (u : List Char) : ((inside ++ e ++ ['>'] ++ u).drop inside.length).take
        ((inside ++ e ++ ['>'] ++ u).length - inside.length - u.length) = e ++ ['>'] := by
      have hlength : (inside ++ e ++ ['>'] ++ u).length - inside.length - u.length =
          (e ++ ['>']).length := by
        simp only [List.length_append]
        omega
      rw [hlength, List.append_assoc, List.append_assoc, List.drop_left, ← List.append_assoc,
        List.take_left]
    unfold nextRaw
    rw [hfound']
    dsimp only at h ⊢
    rw [htag] at h ⊢
    split at h
    · next hplain =>
      cases h
      rw [if_pos hplain]
    · next hplain =>
      cases h
      rw [if_neg hplain]

end StickerPages.Markup
