import StickerPages.Content.Shortcodes

/-!
# What filling a page means

Filling a page reads it twice, and the second reading also goes over the pictures that the first
one wrote. What comes of it is said here without any reading: a page that is made of plain text,
codes and escaped codes is filled *segment by segment* (`render_segments`). Plain text stays, a code
becomes its picture if it is known and stays as it is written if not, and an escaped code loses its
backslashes and never becomes a picture.

Segments must not run into each other. A backslash behind a code, with nothing but name characters
in between, would be read together with the code's closing colon; so an escaped code needs something
in front of it that no name can cross (`Placed`). Nothing else is asked, and each of the two
readings is an induction over the segments in which the next segments are known only by their first
characters.
-/

namespace StickerPages.Content

/-- A part of a page. -/
inductive Segment where
  | plain (cs : List Char)
  | code (c : Code)
  /-- A code with a backslash in front of each colon. -/
  | escaped (name : List Char)
deriving Repr

/-- One or more characters that can stand in a name. -/
def IsName (cs : List Char) : Prop :=
  cs ≠ [] ∧ ∀ c ∈ cs, isNameChar c = true

namespace Segment

/-- Plain text has no colon and no backslash; a code is a name with blanks around it. -/
def WellFormed : Segment → Prop
  | .plain cs => ∀ c ∈ cs, c ≠ ':' ∧ c ≠ '\\'
  | .code c => (∀ b ∈ c.before, Text.isBlank b = true) ∧ IsName c.name ∧
      ∀ b ∈ c.after, Text.isBlank b = true
  | .escaped name => IsName name

/-- The segment as it stands in the page. -/
def written : Segment → List Char
  | .plain cs => cs
  | .code c => c.written
  | .escaped name => '\\' :: ':' :: (name ++ ['\\', ':'])

/-- The segment in the filled page. -/
def filled (map : List (String × String)) (style : String) : Segment → List Char
  | .plain cs => cs
  | .code c =>
    match map.lookup (":" ++ String.ofList c.name ++ ":") with
    | some url => (picture url (String.ofList c.name) style).toList
    | none => c.written
  | .escaped name => ':' :: (name ++ [':'])

theorem filled_known {map : List (String × String)} {c : Code} {url : String}
    (h : map.lookup (":" ++ String.ofList c.name ++ ":") = some url) (style : String) :
    (Segment.code c).filled map style = (picture url (String.ofList c.name) style).toList := by
  rw [filled, h]

theorem filled_unknown {map : List (String × String)} {c : Code}
    (h : map.lookup (":" ++ String.ofList c.name ++ ":") = none) (style : String) :
    (Segment.code c).filled map style = c.written := by
  rw [filled, h]

/-- An escaped code stands at the start of the page, behind another escaped code, or behind plain
text that holds a character outside names; plain text made of name characters alone may come in
between.
`free` says that one may stand at the start of these segments. -/
def Placed : Bool → List Segment → Prop
  | _, [] => True
  | free, .plain cs :: r => Placed (free || cs.any fun c => !isNameChar c) r
  | _, .code _ :: r => Placed false r
  | free, .escaped _ :: r => free = true ∧ Placed true r

/-- It is enough to look at the one segment in front of each escaped code. -/
theorem placed_of_before {segs : List Segment} :
    ∀ free, (∀ front name back, segs = front ++ .escaped name :: back →
      (front = [] ∧ free = true) ∨ (∃ n, front.getLast? = some (.escaped n)) ∨
        ∃ cs, front.getLast? = some (.plain cs) ∧ ∃ c ∈ cs, isNameChar c = false) →
      Placed free segs := by
  induction segs with
  | nil => exact fun _ _ => trivial
  | cons g r ih =>
      intro free h
      -- In the rest, what stood behind `g` stands at the start.
      have hr : ∀ free', ((∃ n, g = .escaped n) ∨
          (∃ cs, g = .plain cs ∧ ∃ c ∈ cs, isNameChar c = false) → free' = true) →
          Placed free' r := by
        intro free' hfree
        refine ih free' fun front name back hback => ?_
        have hbefore := h (g :: front) name back (by rw [hback, List.cons_append])
        cases front with
        | nil =>
            refine .inl ⟨rfl, hfree ?_⟩
            simpa using hbefore
        | cons g' front => simpa [List.getLast?_cons] using hbefore
      cases g with
      | plain cs =>
          refine hr _ fun hclear => ?_
          have hany : (cs.any fun c => !isNameChar c) = true := by simpa using hclear
          rw [hany, Bool.or_true]
      | code c => exact hr false fun hclear => by simp at hclear
      | escaped name =>
          have hfree : free = true := by simpa using h [] name r rfl
          exact ⟨hfree, hr true fun _ => rfl⟩

end Segment

/-! ## Characters -/

theorem isBlank_of_isNameChar {c : Char} (h : isNameChar c = true) : Text.isBlank c = false := by
  have hrange : c.toNat = 0x2d ∨ (0x30 ≤ c.toNat ∧ c.toNat ≤ 0x7a) ∨
      (0x4e00 ≤ c.toNat ∧ c.toNat ≤ 0x9fa5) := by
    delta isNameChar Char.isAlphanum Char.isAlpha Char.isUpper Char.isLower Char.isDigit at h
    simp only [Bool.or_eq_true, Bool.and_eq_true, decide_eq_true_eq, beq_iff_eq, ge_iff_le,
      UInt32.le_iff_toNat_le] at h
    change (((((65 ≤ c.toNat ∧ c.toNat ≤ 90) ∨ (97 ≤ c.toNat ∧ c.toNat ≤ 122)) ∨
      (48 ≤ c.toNat ∧ c.toNat ≤ 57)) ∨ c = '_') ∨ c = '-') ∨ _ at h
    rcases h with ((((h | h) | h) | rfl) | rfl) | h
    · omega
    · omega
    · omega
    · decide
    · decide
    · exact .inr (.inr h)
  simp only [Text.isBlank, Bool.or_eq_false_iff, Bool.and_eq_false_iff, decide_eq_false_iff_not,
    beq_eq_false_iff_ne]
  omega

theorem ne_of_isNameChar {c d : Char} (h : isNameChar c = true) (hd : isNameChar d = false) :
    c ≠ d := by
  rintro rfl
  rw [h] at hd
  cases hd

theorem not_isNameChar_of_isBlank {c : Char} (h : Text.isBlank c = true) :
    isNameChar c = false := by
  cases hn : isNameChar c with
  | false => rfl
  | true =>
      rw [isBlank_of_isNameChar hn] at h
      cases h

/-! ## Runs -/

section

variable {p : Char → Bool} {run rest : List Char}

theorem takeWhile_run (hrun : ∀ c ∈ run, p c = true) (hrest : ∀ c ∈ rest.head?, p c = false) :
    (run ++ rest).takeWhile p = run := by
  rw [List.takeWhile_append_of_pos hrun]
  cases rest with
  | nil => simp
  | cons c r =>
      have hc := hrest c rfl
      simp [hc]

theorem dropWhile_run (hrun : ∀ c ∈ run, p c = true) (hrest : ∀ c ∈ rest.head?, p c = false) :
    (run ++ rest).dropWhile p = rest := by
  rw [List.dropWhile_append_of_pos hrun]
  cases rest with
  | nil => rfl
  | cons c r =>
      have hc := hrest c rfl
      simp [hc]

end

theorem head?_append_of_ne_nil {run rest : List Char} (h : run ≠ []) :
    (run ++ rest).head? = run.head? := by
  cases run with
  | nil => exact absurd rfl h
  | cons c r => rfl

/-! ## The first reading -/

/-- A code is read where it is written, unless a backslash follows. -/
theorem code?_written {c : Code} (hc : (Segment.code c).WellFormed) {rest : List Char}
    (hrest : rest.head? ≠ some '\\') :
    code? (c.before ++ c.name ++ c.after ++ ':' :: rest) = some (c, rest) := by
  obtain ⟨hbefore, ⟨hne, hname⟩, hafter⟩ := hc
  have hcolon : ∀ d ∈ (':' :: rest).head?, Text.isBlank d = false := by
    intro d hd
    cases hd
    decide
  have hbehind : ∀ d ∈ (c.after ++ ':' :: rest).head?, isNameChar d = false := by
    intro d hd
    cases ha : c.after with
    | nil =>
        rw [ha] at hd
        cases hd
        decide
    | cons b r =>
        rw [ha] at hd
        cases hd
        exact not_isNameChar_of_isBlank (hafter _ (by rw [ha]; exact List.mem_cons_self))
  have hfront : ∀ d ∈ (c.name ++ (c.after ++ ':' :: rest)).head?, Text.isBlank d = false := by
    intro d hd
    rw [head?_append_of_ne_nil hne] at hd
    exact isBlank_of_isNameChar (hname d (List.mem_of_mem_head? hd))
  have hempty : c.name.isEmpty = false := by simpa using hne
  -- each of the three runs ends where a character of another kind stands
  unfold code?
  rw [List.append_assoc, List.append_assoc]
  rw [takeWhile_run hbefore hfront, dropWhile_run hbefore hfront]
  dsimp only
  rw [takeWhile_run hname hbehind, dropWhile_run hname hbehind, takeWhile_run hafter hcolon,
    dropWhile_run hafter hcolon]
  simp [hempty, hrest]

/-- Text without a colon is passed over. -/
theorem pieces_plain {cs : List Char} (h : ∀ c ∈ cs, c ≠ ':' ∧ c ≠ '\\') (rest : List Char) :
    pieces false (cs ++ rest) = cs.map .inl ++ pieces false rest := by
  induction cs with
  | nil => rfl
  | cons c r ih =>
      obtain ⟨hcolon, hslash⟩ := h c List.mem_cons_self
      have hnext : (c == '\\') = false := by simpa using hslash
      rw [List.cons_append, pieces, if_neg (by simp [hcolon]), hnext,
        ih fun d hd => h d (List.mem_cons_of_mem _ hd)]
      rfl

theorem pieces_code {c : Code} (hc : (Segment.code c).WellFormed) {rest : List Char}
    (hrest : rest.head? ≠ some '\\') :
    pieces false (c.written ++ rest) = .inr c :: pieces false rest := by
  have hread := code?_written hc hrest
  rw [show c.written ++ rest = ':' :: (c.before ++ c.name ++ c.after ++ ':' :: rest) by
    simp [Code.written]]
  rw [pieces, if_pos (by decide)]
  split
  next code r h =>
    rw [hread] at h
    cases h
    rfl
  next h =>
    rw [hread] at h
    cases h

/-- A colon behind a backslash opens no code. -/
theorem pieces_slashColon (rest : List Char) :
    pieces false ('\\' :: ':' :: rest) = .inl '\\' :: .inl ':' :: pieces false rest := by
  rw [pieces, if_neg (by decide), pieces, if_neg (by decide)]
  rfl

theorem pieces_escaped {name : List Char} (hname : IsName name) (rest : List Char) :
    pieces false ((Segment.escaped name).written ++ rest) =
      (Segment.escaped name).written.map .inl ++ pieces false rest := by
  have hplain : ∀ c ∈ name, c ≠ ':' ∧ c ≠ '\\' := fun c hc =>
    ⟨ne_of_isNameChar (hname.2 c hc) (by decide), ne_of_isNameChar (hname.2 c hc) (by decide)⟩
  rw [show (Segment.escaped name).written ++ rest =
      '\\' :: ':' :: (name ++ '\\' :: ':' :: rest) by simp [Segment.written]]
  rw [pieces_slashColon, pieces_plain hplain, pieces_slashColon]
  simp [Segment.written]

/-! ## What follows a code -/

/-- Behind its name characters a text without backslashes goes on with something else than a
backslash, unless it is all name characters, and then what comes behind it decides. -/
theorem dropWhile_head_append {cs rest : List Char} (h : ∀ c ∈ cs, c ≠ '\\')
    (hrest : (cs.any fun c => !isNameChar c) = false →
      (rest.dropWhile isNameChar).head? ≠ some '\\') :
    ((cs ++ rest).dropWhile isNameChar).head? ≠ some '\\' := by
  induction cs with
  | nil => exact hrest rfl
  | cons c r ih =>
      rw [List.cons_append, List.dropWhile_cons]
      cases hc : isNameChar c with
      | true =>
          rw [if_pos rfl]
          refine ih (fun d hd => h d (List.mem_cons_of_mem _ hd)) fun hany => hrest ?_
          rw [List.any_cons, hc, hany]
          rfl
      | false =>
          rw [if_neg (by decide)]
          simpa using h c List.mem_cons_self

/-- Where no escaped code may stand, the text goes on, behind name characters, with something else
than a backslash. `f` is how the segments are written at the time. -/
theorem dropWhile_head_of_placed {f : Segment → List Char} {segs : List Segment}
    (hplain : ∀ cs, f (.plain cs) = cs)
    (hcode : ∀ c, Segment.code c ∈ segs →
      ∃ x r, f (.code c) = x :: r ∧ isNameChar x = false ∧ x ≠ '\\')
    (hwf : ∀ g ∈ segs, g.WellFormed) (hplaced : Segment.Placed false segs) :
    ((segs.flatMap f).dropWhile isNameChar).head? ≠ some '\\' := by
  induction segs with
  | nil => simp
  | cons g r ih =>
      have hr := ih (fun c hc => hcode c (List.mem_cons_of_mem _ hc))
        fun g hg => hwf g (List.mem_cons_of_mem _ hg)
      rw [List.flatMap_cons]
      cases g with
      | plain cs =>
          rw [hplain]
          rw [Segment.Placed, Bool.false_or] at hplaced
          have hslash : ∀ c ∈ cs, c ≠ '\\' := fun c hc => (hwf _ List.mem_cons_self c hc).2
          refine dropWhile_head_append hslash fun hany => ?_
          exact hr (hany ▸ hplaced)
      | code c =>
          obtain ⟨x, xs, hx, hname, hslash⟩ := hcode c List.mem_cons_self
          rw [hx, List.cons_append, List.dropWhile_cons, if_neg (by simp [hname])]
          simpa using hslash
      | escaped name => exact absurd hplaced.1 (by decide)

/-- The same of the text's first character. -/
theorem head_of_dropWhile_head {cs : List Char}
    (h : (cs.dropWhile isNameChar).head? ≠ some '\\') : cs.head? ≠ some '\\' := by
  intro hhead
  cases cs with
  | nil => cases hhead
  | cons c r =>
      cases hhead
      exact h rfl

/-- A segment after the first reading: an escaped code is still as it was written. -/
def Segment.halfFilled (map : List (String × String)) (style : String) : Segment → List Char
  | .escaped name => (Segment.escaped name).written
  | g => g.filled map style

section

variable {map : List (String × String)} {style : String}

theorem flatMap_fillPiece_inl (cs : List Char) :
    (cs.map Sum.inl).flatMap (fillPiece map style) = cs := by
  induction cs with
  | nil => rfl
  | cons c r ih => rw [List.map_cons, List.flatMap_cons, ih, fillPiece, List.singleton_append]

/-- **The first reading goes segment by segment.** -/
theorem fill_segments {segs : List Segment} (hwf : ∀ g ∈ segs, g.WellFormed) :
    ∀ free, Segment.Placed free segs →
      fill map style (segs.flatMap Segment.written) =
        segs.flatMap (Segment.halfFilled map style) := by
  induction segs with
  | nil => exact fun _ _ => by simp [fill, pieces]
  | cons g r ih =>
      intro free hplaced
      have hr := ih fun g hg => hwf g (List.mem_cons_of_mem _ hg)
      have hg := hwf g List.mem_cons_self
      rw [List.flatMap_cons, List.flatMap_cons]
      unfold fill at hr ⊢
      cases g with
      | plain cs =>
          rw [Segment.written, pieces_plain hg, List.flatMap_append, flatMap_fillPiece_inl,
            hr _ hplaced]
          rfl
      | code c =>
          -- no backslash follows the code, because no escaped code does
          have hahead := dropWhile_head_of_placed (f := Segment.written) (fun _ => rfl)
            (fun c _ => ⟨':', _, rfl, by decide, by decide⟩)
            (fun g hg => hwf g (List.mem_cons_of_mem _ hg)) hplaced
          rw [Segment.written, pieces_code hg (head_of_dropWhile_head hahead), List.flatMap_cons,
            hr _ hplaced]
          rfl
      | escaped name =>
          rw [pieces_escaped hg, List.flatMap_append, flatMap_fillPiece_inl, hr _ hplaced.2]
          rfl

end

/-! ## The second reading -/

theorem escapedCode?_eq_none {c : Char} {rest : List Char} (hc : c ≠ '\\')
    (hcolon : c = ':' → (rest.dropWhile isNameChar).head? ≠ some '\\') :
    escapedCode? (c :: rest) = none := by
  unfold escapedCode?
  split
  next h =>
    cases h
    exact absurd rfl hc
  next r h =>
    cases h
    dsimp only
    split
    · rfl
    · split
      next hr =>
        have hhead := hcolon rfl
        rw [hr] at hhead
        exact absurd rfl hhead
      next => rfl
  next => rfl

/-- Text without backslashes is passed over, if none of its colons opens a name with a backslash
behind it. -/
theorem unescape_append {cs rest : List Char} (h : ∀ c ∈ cs, c ≠ '\\')
    (hcolon : ∀ l r, cs = l ++ ':' :: r →
      ((r ++ rest).dropWhile isNameChar).head? ≠ some '\\') :
    unescape (cs ++ rest) = cs ++ unescape rest := by
  induction cs with
  | nil => rfl
  | cons c r ih =>
      have hnone : escapedCode? (c :: (r ++ rest)) = none :=
        escapedCode?_eq_none (h c List.mem_cons_self) fun hc => hcolon [] r (by rw [hc]; rfl)
      have hr := ih (fun d hd => h d (List.mem_cons_of_mem _ hd))
        fun l r' hl => hcolon (c :: l) r' (by rw [hl]; rfl)
      rw [List.cons_append, unescape]
      split
      next hsome =>
        rw [hnone] at hsome
        cases hsome
      next => rw [hr, List.cons_append]

theorem unescape_escaped {name : List Char} (hname : IsName name) (rest : List Char) :
    unescape ((Segment.escaped name).written ++ rest) =
      ':' :: (name ++ [':']) ++ unescape rest := by
  have hstop : ∀ d ∈ ('\\' :: ':' :: rest).head?, isNameChar d = false := by
    intro d hd
    cases hd
    decide
  have hempty : name.isEmpty = false := by simpa using hname.1
  have hread : escapedCode? ('\\' :: ':' :: (name ++ '\\' :: ':' :: rest)) = some (name, rest) := by
    rw [escapedCode?]
    rw [takeWhile_run hname.2 hstop, dropWhile_run hname.2 hstop, hempty]
    rfl
  rw [show (Segment.escaped name).written ++ rest =
      '\\' :: ':' :: (name ++ '\\' :: ':' :: rest) by simp [Segment.written]]
  rw [unescape]
  split
  next n r h =>
    rw [hread] at h
    cases h
    simp
  next h =>
    rw [hread] at h
    cases h

/-! ## What a picture brings in -/

theorem not_mem_escapeChar {c : Char} (h : c ≠ '\\') : '\\' ∉ escapeChar c := by
  unfold escapeChar
  split
  · decide
  · decide
  · decide
  · decide
  · decide
  · exact fun hm => h (List.mem_singleton.mp hm).symm

theorem not_mem_escape {s : String} (h : '\\' ∉ s.toList) : '\\' ∉ (escape s).toList := by
  rw [escape, String.toList_ofList, List.mem_flatMap]
  rintro ⟨c, hc, hmem⟩
  refine not_mem_escapeChar ?_ hmem
  rintro rfl
  exact h hc

theorem not_mem_append {s t : String} (hs : '\\' ∉ s.toList) (ht : '\\' ∉ t.toList) :
    '\\' ∉ (s ++ t).toList := by
  rw [String.toList_append, List.mem_append, not_or]
  exact ⟨hs, ht⟩

/-- A picture brings no backslash of its own. -/
theorem not_mem_picture {url alt style : String} (hurl : '\\' ∉ url.toList)
    (halt : '\\' ∉ alt.toList) (hstyle : '\\' ∉ style.toList) :
    '\\' ∉ (picture url alt style).toList := by
  have hbase : '\\' ∉ (baseStyle ++ style).toList :=
    not_mem_append (by decide +kernel) hstyle
  unfold picture
  refine not_mem_append ?_ (by decide +kernel)
  refine not_mem_append ?_ (not_mem_escape hbase)
  refine not_mem_append ?_ (by decide +kernel)
  refine not_mem_append ?_ (not_mem_escape halt)
  refine not_mem_append ?_ (by decide +kernel)
  refine not_mem_append ?_ (not_mem_escape halt)
  refine not_mem_append ?_ (by decide +kernel)
  refine not_mem_append ?_ (not_mem_escape hurl)
  refine not_mem_append ?_ (by decide +kernel)
  exact not_mem_append (by decide +kernel) (not_mem_escape hurl)

theorem picture_head (url alt style : String) :
    ∃ r, (picture url alt style).toList = '<' :: r := by
  have hfront : "<img src=\"".toList = '<' :: "img src=\"".toList := by decide
  unfold picture
  repeat rw [String.toList_append]
  rw [hfront]
  simp only [List.append_assoc, List.cons_append]
  exact ⟨_, rfl⟩

/-! ## The second reading, segment by segment -/

section

variable {map : List (String × String)} {style : String}

/-- After the first reading a code is without backslashes: it is as it was written, or a picture. -/
theorem not_mem_filled_code (hmap : ∀ e ∈ map, '\\' ∉ e.2.toList) (hstyle : '\\' ∉ style.toList)
    {c : Code} (hc : (Segment.code c).WellFormed) :
    ∀ x ∈ (Segment.code c).filled map style, x ≠ '\\' := by
  obtain ⟨hbefore, ⟨-, hname⟩, hafter⟩ := hc
  have hblank : ∀ x, Text.isBlank x = true → x ≠ '\\' := by
    rintro x hx rfl
    exact absurd hx (by decide)
  have hslash : ∀ x ∈ c.name, x ≠ '\\' := fun x hx => ne_of_isNameChar (hname x hx) (by decide)
  intro x hx
  cases hl : map.lookup (":" ++ String.ofList c.name ++ ":") with
  | some url =>
      rw [Segment.filled_known hl] at hx
      obtain ⟨front, back, hentry, -⟩ := List.lookup_eq_some_iff.mp hl
      have hmem : (":" ++ String.ofList c.name ++ ":", url) ∈ map := by
        rw [hentry]
        exact List.mem_append_right _ List.mem_cons_self
      have hurl : '\\' ∉ url.toList := hmap _ hmem
      have halt : '\\' ∉ (String.ofList c.name).toList := by
        rw [String.toList_ofList]
        exact fun hmem => hslash _ hmem rfl
      rintro rfl
      exact not_mem_picture hurl halt hstyle hx
  | none =>
      rw [Segment.filled_unknown hl] at hx
      simp only [Code.written, List.mem_cons, List.mem_append, List.not_mem_nil, or_false] at hx
      rcases hx with rfl | ((hx | hx) | hx) | rfl
      · decide
      · exact hblank x (hbefore x hx)
      · exact hslash x hx
      · exact hblank x (hafter x hx)
      · decide

/-- It starts with a colon or with the picture's bracket, and neither can stand in a name. -/
theorem filled_code_head (c : Code) :
    ∃ x r, (Segment.code c).filled map style = x :: r ∧ isNameChar x = false ∧ x ≠ '\\' := by
  cases hl : map.lookup (":" ++ String.ofList c.name ++ ":") with
  | some url =>
      obtain ⟨r, hr⟩ := picture_head url (String.ofList c.name) style
      exact ⟨'<', r, (Segment.filled_known hl style).trans hr, by decide, by decide⟩
  | none => exact ⟨':', _, Segment.filled_unknown hl style, by decide, by decide⟩

/-- **The second reading goes segment by segment too**, though it reads the pictures again. -/
theorem unescape_segments (hmap : ∀ e ∈ map, '\\' ∉ e.2.toList) (hstyle : '\\' ∉ style.toList)
    {segs : List Segment} (hwf : ∀ g ∈ segs, g.WellFormed) :
    ∀ free, Segment.Placed free segs →
      unescape (segs.flatMap (Segment.halfFilled map style)) =
        segs.flatMap (Segment.filled map style) := by
  induction segs with
  | nil => exact fun _ _ => by simp [unescape]
  | cons g r ih =>
      intro free hplaced
      have hrest : ∀ g ∈ r, g.WellFormed := fun g hg => hwf g (List.mem_cons_of_mem _ hg)
      have hg := hwf g List.mem_cons_self
      rw [List.flatMap_cons, List.flatMap_cons]
      cases g with
      | plain cs =>
          -- There is no colon here that could open anything.
          have hcolon : ∀ l t, cs = l ++ ':' :: t →
              ((t ++ r.flatMap (Segment.halfFilled map style)).dropWhile isNameChar).head? ≠
                some '\\' := by
            rintro l t rfl
            exact absurd rfl (hg ':' (by simp)).1
          have hread := unescape_append (fun c hc => (hg c hc).2) hcolon
          rw [ih hrest _ hplaced] at hread
          exact hread
      | code c =>
          have hslash := not_mem_filled_code hmap hstyle hg
          have hahead := dropWhile_head_of_placed (f := Segment.halfFilled map style) (fun _ => rfl)
            (fun c _ => filled_code_head c) hrest hplaced
          -- A colon in what the code became opens no name that reaches a backslash.
          have hcolon : ∀ l t, (Segment.code c).filled map style = l ++ ':' :: t →
              ((t ++ r.flatMap (Segment.halfFilled map style)).dropWhile isNameChar).head? ≠
                some '\\' := by
            intro l t ht
            refine dropWhile_head_append (fun d hd => hslash d ?_) fun _ => hahead
            rw [ht]
            exact List.mem_append_right _ (List.mem_cons_of_mem _ hd)
          have hread := unescape_append hslash hcolon
          rw [ih hrest _ hplaced] at hread
          exact hread
      | escaped name =>
          rw [Segment.halfFilled, unescape_escaped hg, ih hrest _ hplaced.2]
          rfl

end

/-! ## Filling a page -/

/-- **A page is filled segment by segment.** Whatever the table holds, plain text stays, a known
code becomes its picture, an unknown one stays with its blanks, and an escaped code becomes its name
between colons. The addresses in the table and the style are without backslashes; the names in a
page always are. Where escaped codes may stand is said by the segment in front of each
(`Segment.placed_of_before`). -/
theorem render_segments {map : List (String × String)} {style : String}
    (hmap : ∀ e ∈ map, '\\' ∉ e.2.toList) (hstyle : '\\' ∉ style.toList) {segs : List Segment}
    (hwf : ∀ g ∈ segs, g.WellFormed) (hplaced : Segment.Placed true segs) :
    render map style (String.ofList (segs.flatMap Segment.written)) =
      String.ofList (segs.flatMap (Segment.filled map style)) := by
  rw [render, String.toList_ofList, fill_segments hwf true hplaced,
    unescape_segments hmap hstyle hwf true hplaced]

/-- A page with a code of each kind. -/
def greeting : List Segment :=
  [.escaped ['w', 'a', 'v', 'e'], .plain [',', ' '], .code ⟨[' '], ['w', 'a', 'v', 'e'], ['\n']⟩,
    .code ⟨[], ['h', 'i'], [' ']⟩, .plain ['!'], .escaped ['你', '好']]

theorem render_segments_greeting :
    (∀ g ∈ greeting, g.WellFormed) ∧ Segment.Placed true greeting ∧
      render [(":wave:", "/w.png")] "width:2em" "\\:wave\\:, : wave\n::hi :!\\:你好\\:" =
        ":wave:, " ++ picture "/w.png" "wave" "width:2em" ++ ":hi :!:你好:" := by
  have hmap : ∀ e ∈ [(":wave:", "/w.png")], '\\' ∉ e.2.toList := by decide
  have hstyle : '\\' ∉ "width:2em".toList := by decide
  have hwf : ∀ g ∈ greeting, g.WellFormed := by
    simp [greeting, Segment.WellFormed, IsName]
    decide
  have hplaced : Segment.Placed true greeting := by
    simp [greeting, Segment.Placed]
    decide
  have hpage : greeting.flatMap Segment.written =
      "\\:wave\\:, : wave\n::hi :!\\:你好\\:".toList := by decide
  have hknown : (Segment.code ⟨[' '], ['w', 'a', 'v', 'e'], ['\n']⟩).filled
      [(":wave:", "/w.png")] "width:2em" = (picture "/w.png" "wave" "width:2em").toList :=
    Segment.filled_known (by decide) "width:2em"
  have hunknown : (Segment.code ⟨[], ['h', 'i'], [' ']⟩).filled [(":wave:", "/w.png")] "width:2em" =
      [':', 'h', 'i', ' ', ':'] := Segment.filled_unknown (by decide) "width:2em"
  have hfilled : greeting.flatMap (Segment.filled [(":wave:", "/w.png")] "width:2em") =
      [':', 'w', 'a', 'v', 'e', ':', ',', ' '] ++
        ((picture "/w.png" "wave" "width:2em").toList ++
          [':', 'h', 'i', ' ', ':', '!', ':', '你', '好', ':']) := by
    simp only [greeting, List.flatMap_cons, hknown, hunknown]
    simp only [Segment.filled, List.flatMap_nil, List.cons_append, List.nil_append]
  have hfront : [':', 'w', 'a', 'v', 'e', ':', ',', ' '] = ":wave:, ".toList := by decide
  have hback : [':', 'h', 'i', ' ', ':', '!', ':', '你', '好', ':'] = ":hi :!:你好:".toList := by
    decide
  have hrender := render_segments hmap hstyle hwf hplaced
  rw [hpage, hfilled, hfront, hback] at hrender
  simp only [String.ofList_append, String.ofList_toList, ← String.append_assoc] at hrender
  exact ⟨hwf, hplaced, hrender⟩

end StickerPages.Content
