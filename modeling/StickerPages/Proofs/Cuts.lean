import StickerPages.Proofs.Rereading

/-!
# Where a text is cut

A text is cut in one go, and what has to be known on the way is kept in one `Cursor`: parentheses
open, the quote mark that is open, a backslash that is pending. Looking back, the three can be told
one after the other, and that is what is meant by a place outside of everything (`AtTop`). Each
backslash takes the character behind it out of consideration. Of what remains, the quote marks say
what is quoted. Of what is not quoted, the parentheses say what they enclose. `scan_eq` is the
statement that one go comes to the same as three.

Whatever the separator is, nothing is lost, and what the parts have before a place does not depend on
what comes behind it (`splitFrom_append`). Only a separator that is no mark itself is cut at exactly
the places that are outside of everything: a quote mark, say, opens a quotation before anyone asks
whether it separates.
-/

namespace StickerPages.Style

variable {separator : Char} {s : Cursor} {a b part text : List Char}

/-! ## What is open behind a text -/

/-- The characters that no backslash has taken the meaning of, backslashes left out. -/
def unescaped : List Char → List Char
  | [] => []
  | [c] => if c = '\\' then [] else [c]
  | c :: d :: r => if c = '\\' then unescaped r else c :: unescaped (d :: r)

/-- The last character is a backslash that will take the next one's meaning. -/
def endsEscaping : List Char → Bool
  | [] => false
  | [c] => c == '\\'
  | c :: d :: r => if c = '\\' then endsEscaping r else endsEscaping (d :: r)

/-- A quote mark opens a quotation, and the same mark closes it. -/
def quoteStep (open? : Option Char) (c : Char) : Option Char :=
  match open? with
  | some mark => if c = mark then none else some mark
  | none => if c = '"' ∨ c = '\'' then some c else none

/-- The characters outside of quotations, quote marks included. -/
def unquoted : Option Char → List Char → List Char
  | _, [] => []
  | some mark, c :: r => unquoted (quoteStep (some mark) c) r
  | none, c :: r => c :: unquoted (quoteStep none c) r

/-- How many parentheses are open; a closing one that closes nothing does not count. -/
def depthStep (depth : Nat) (c : Char) : Nat :=
  if c = '(' then depth + 1 else if c = ')' then depth - 1 else depth

/-- What comes behind the text is outside of everything. -/
structure AtTop (text : List Char) : Prop where
  complete : endsEscaping text = false
  unquoted : (unescaped text).foldl quoteStep none = none
  unenclosed : (Style.unquoted none (unescaped text)).foldl depthStep 0 = 0

instance : DecidablePred AtTop := fun text =>
  decidable_of_iff (endsEscaping text = false ∧ (unescaped text).foldl quoteStep none = none ∧
      (unquoted none (unescaped text)).foldl depthStep 0 = 0)
    ⟨fun ⟨h, h', h''⟩ => ⟨h, h', h''⟩, fun h => ⟨h.complete, h.unquoted, h.unenclosed⟩⟩

/-- The characters that mean something to a reading, wherever it is cut. -/
def marks : List Char := ['\\', '"', '\'', '(', ')']

/-! ## Scanning -/

/-- Where a reading stands behind more text, cut where it may be. -/
def Cursor.scan (separator : Char) (s : Cursor) (text : List Char) : Cursor :=
  text.foldl (fun s c => (s.advance separator c).getD s) s

theorem advance_backslash (separator : Char) (hs : s.escaped = false) :
    s.advance separator '\\' = some { s with escaped := true } := by
  rw [Cursor.advance, hs]
  rfl

theorem advance_escaped (separator c : Char) :
    Cursor.advance separator { s with escaped := true } c = some { s with escaped := false } := by
  rw [Cursor.advance, if_pos rfl]

/-- A character that nothing has taken the meaning of. -/
theorem getD_advance {c : Char} (hseparator : separator ∉ marks) (hs : s.escaped = false)
    (hc : c ≠ '\\') : (s.advance separator c).getD s =
      ⟨(unquoted s.quote [c]).foldl depthStep s.depth, quoteStep s.quote c, false⟩ := by
  obtain ⟨depth, quote, escaped⟩ := s
  obtain rfl : escaped = false := hs
  simp only [marks, List.mem_cons, List.not_mem_nil, or_false, not_or] at hseparator
  unfold Cursor.advance
  cases quote with
  | some mark =>
      simp only [Bool.false_eq_true, if_false, hc, unquoted, quoteStep, List.foldl_nil,
        Option.getD_some]
      split <;> rfl
  | none =>
      simp only [Bool.false_eq_true, if_false, hc, unquoted, quoteStep, List.foldl_cons,
        List.foldl_nil, depthStep]
      grind

theorem unquoted_cons (open? : Option Char) (c : Char) (r : List Char) :
    unquoted open? (c :: r) = unquoted open? [c] ++ unquoted (quoteStep open? c) r := by
  cases open? <;> rfl

/-- **One go comes to the same as three**, where the separator is no mark. -/
theorem scan_eq (hseparator : separator ∉ marks) (text : List Char) :
    ∀ s : Cursor, s.escaped = false → s.scan separator text =
      ⟨(unquoted s.quote (unescaped text)).foldl depthStep s.depth,
        (unescaped text).foldl quoteStep s.quote, endsEscaping text⟩ := by
  fun_induction unescaped text with
  | case1 =>
      intro s hs
      obtain ⟨depth, quote, escaped⟩ := s
      obtain rfl : escaped = false := hs
      cases quote <;> rfl
  | case2 =>
      intro s hs
      rw [Cursor.scan, List.foldl_cons, advance_backslash separator hs]
      cases s.quote <;> rfl
  | case3 c hc =>
      intro s hs
      rw [Cursor.scan, List.foldl_cons, getD_advance hseparator hs hc, endsEscaping,
        beq_eq_false_iff_ne.mpr hc]
      rfl
  | case4 d r ih =>
      -- the backslash and the character behind it leave the cursor where it was
      intro s hs
      rw [Cursor.scan, List.foldl_cons, List.foldl_cons, advance_backslash separator hs,
        Option.getD_some, advance_escaped, Option.getD_some, endsEscaping, if_pos rfl, ← hs]
      exact ih s hs
  | case5 c d r hc ih =>
      intro s hs
      have hrest := ih ⟨(unquoted s.quote [c]).foldl depthStep s.depth, quoteStep s.quote c, false⟩
        rfl
      dsimp only at hrest
      rw [← List.foldl_append, ← unquoted_cons] at hrest
      rw [Cursor.scan, List.foldl_cons, getD_advance hseparator hs hc, endsEscaping, if_neg hc]
      exact hrest

/-- A scan ends outside exactly if nothing is open, one thing looked at after the other. -/
theorem scan_outside_iff (hseparator : separator ∉ marks) (text : List Char) :
    Cursor.outside.scan separator text = .outside ↔ AtTop text := by
  rw [scan_eq hseparator text .outside rfl, Cursor.outside, Cursor.mk.injEq]
  constructor
  · intro h
    obtain ⟨hunenclosed, hunquoted, hcomplete⟩ := h
    exact ⟨hcomplete, hunquoted, hunenclosed⟩
  · exact fun h => ⟨h.unenclosed, h.unquoted, h.complete⟩

/-! ## Parts -/

/-- The parts of a text, but for the last one, do not depend on what comes behind the text. -/
theorem splitFrom_append (separator : Char) (a : List Char) : ∀ (s : Cursor) (part : List Char),
    ∃ front last, splitFrom separator s part a = front ++ [last] ∧ ∀ rest,
      splitFrom separator s part (a ++ rest) =
        front ++ splitFrom separator (s.scan separator a) last.reverse rest := by
  induction a with
  | nil =>
      intro s part
      refine ⟨[], part.reverse, rfl, fun rest => ?_⟩
      rw [List.reverse_reverse]
      rfl
  | cons c r ih =>
      intro s part
      rw [Cursor.scan, List.foldl_cons, splitFrom]
      simp only [List.cons_append, splitFrom]
      cases s.advance separator c with
      | none =>
          obtain ⟨front, last, hfront, hrest⟩ := ih s []
          exact ⟨part.reverse :: front, last, congrArg (_ :: ·) hfront,
            fun rest => congrArg (_ :: ·) (hrest rest)⟩
      | some t => exact ih t (c :: part)

theorem splitTopLevel_ne_nil (separator : Char) (text : List Char) :
    splitTopLevel separator text ≠ [] := by
  obtain ⟨y, ps, -, hsplit⟩ := exists_splitFrom separator .outside text
  rw [splitTopLevel, hsplit]
  exact List.cons_ne_nil _ _

/-- **Nothing is lost**, whatever the separator is. -/
theorem intercalate_splitTopLevel (separator : Char) (text : List Char) :
    [separator].intercalate (splitTopLevel separator text) = text := by
  have hfrom (cs : List Char) : ∀ (s : Cursor) (part : List Char),
      [separator].intercalate (splitFrom separator s part cs) = part.reverse ++ cs := by
    induction cs with
    | nil =>
        intro s part
        rw [splitFrom, List.intercalate_singleton, List.append_nil]
    | cons c r ih =>
        intro s part
        rw [splitFrom]
        cases hadvance : s.advance separator c with
        | none =>
            obtain ⟨rfl, -⟩ := advance_eq_none hadvance
            obtain ⟨y, ps, -, hsplit⟩ := exists_splitFrom c s r
            dsimp only
            rw [List.intercalate_cons_of_ne_nil (by simp [hsplit]), ih]
            simp
        | some t =>
            dsimp only
            rw [ih, List.reverse_cons, List.append_assoc]
            rfl
  exact hfrom text .outside []

/-! ## Cuts -/

/-- The text is cut right behind `a`: some first parts make up `a`, and there are more. -/
def CutBehind (separator : Char) (a text : List Char) : Prop :=
  ∃ front back, back ≠ [] ∧ splitTopLevel separator text = front ++ back ∧
    front ≠ [] ∧ [separator].intercalate front = a

/-- The characters of parts, a separator counted with each. -/
theorem length_intercalate (separator : Char) {parts : List (List Char)} (h : parts ≠ []) :
    ([separator].intercalate parts).length + 1 = (parts.map fun p => p.length + 1).sum := by
  induction parts with
  | nil => exact absurd rfl h
  | cons p r ih =>
      by_cases hr : r = []
      · simp [hr]
      · rw [List.intercalate_cons_of_ne_nil hr, List.map_cons, List.sum_cons, ← ih hr]
        simp
        omega

/-- Where something is open, the part in front goes on behind the separator. -/
theorem splitTopLevel_uncut (separator : Char) (a b : List Char)
    (h : Cursor.outside.scan separator a ≠ .outside) :
    ∃ front last y ps, splitTopLevel separator a = front ++ [last] ∧
      splitTopLevel separator (a ++ separator :: b) =
        front ++ (last ++ separator :: y) :: ps := by
  obtain ⟨front, last, hfront, hrest⟩ := splitFrom_append separator a .outside []
  obtain ⟨t, ht⟩ : ∃ t, (Cursor.outside.scan separator a).advance separator separator = some t :=
    Option.ne_none_iff_exists'.mp fun hnone => h (advance_eq_none hnone).2
  obtain ⟨y, ps, -, hsplit⟩ := exists_splitFrom separator t b
  refine ⟨front, last, y, ps, hfront, ?_⟩
  rw [splitTopLevel, hrest, splitFrom, ht]
  dsimp only
  rw [hsplit, List.reverse_cons, List.reverse_reverse, List.append_assoc]
  rfl

/-- Outside of everything, both sides of a separator are cut on their own. -/
theorem splitTopLevel_cut (hseparator : separator ∉ marks)
    (h : Cursor.outside.scan separator a = .outside) (b : List Char) :
    splitTopLevel separator (a ++ separator :: b) =
      splitTopLevel separator a ++ splitTopLevel separator b := by
  obtain ⟨front, last, hfront, hrest⟩ := splitFrom_append separator a .outside []
  have hcut : Cursor.advance separator .outside separator = none := by
    simp only [marks, List.mem_cons, List.not_mem_nil, or_false, not_or] at hseparator
    simp [Cursor.advance, Cursor.outside, hseparator]
  rw [splitTopLevel, hrest, h, splitFrom, hcut, splitTopLevel, hfront, List.reverse_reverse,
    List.append_assoc]
  rfl

/-- A text that goes on behind `a` in the same part is not cut there. -/
theorem not_cutBehind (h : Cursor.outside.scan separator a ≠ .outside) (b : List Char) :
    ¬ CutBehind separator a (a ++ separator :: b) := by
  rintro ⟨front', back, -, hparts, hne, hfront'⟩
  obtain ⟨front, last, y, ps, hfront, hsplit⟩ := splitTopLevel_uncut separator a b h
  have hwhole : front ++ [last] ≠ [] := List.append_ne_nil_of_right_ne_nil _ (List.cons_ne_nil _ _)
  have ha := length_intercalate separator hwhole
  have ha' := length_intercalate separator hne
  rw [← hfront, intercalate_splitTopLevel, hfront] at ha
  rw [hfront'] at ha'
  rw [hsplit, List.append_eq_append_iff] at hparts
  -- first parts that go up to `last` are too short for `a`, and others are too long
  obtain ⟨more, rfl, hmore⟩ | ⟨more, rfl, -⟩ := hparts
  · cases more with
    | nil => simp at ha ha'; omega
    | cons p r =>
        obtain ⟨rfl, -⟩ := List.cons_eq_cons.mp hmore
        simp at ha ha'
        omega
  · simp at ha ha'
    omega

/-- **Cutting loses nothing and cuts at the top.** For a separator that is no mark, a text is cut at
exactly those separators that have nothing open in front of them, and there the two sides of it can
be cut on their own. -/
theorem splitTopLevel_cuts (separator : Char) :
    (∀ text, [separator].intercalate (splitTopLevel separator text) = text) ∧
      (separator ∉ marks → ∀ a b,
        (CutBehind separator a (a ++ separator :: b) ↔ AtTop a) ∧
          (AtTop a → splitTopLevel separator (a ++ separator :: b) =
            splitTopLevel separator a ++ splitTopLevel separator b)) := by
  refine ⟨intercalate_splitTopLevel separator, fun hseparator a b => ?_⟩
  have hoff := scan_outside_iff hseparator a
  have hcut (h : AtTop a) := splitTopLevel_cut hseparator (hoff.mpr h) b
  refine ⟨⟨fun hbehind => ?_, fun h => ?_⟩, hcut⟩
  · by_contra h
    exact not_cutBehind (fun hout => h (hoff.mp hout)) b hbehind
  · exact ⟨_, _, splitTopLevel_ne_nil separator b, hcut h, splitTopLevel_ne_nil separator a,
      intercalate_splitTopLevel separator a⟩

/-- Semicolons in parentheses, in quotation marks and behind a backslash, and a parenthesis that
closes nothing. The quote mark that a backslash takes out leaves its quotation open. -/
theorem splitTopLevel_cuts_quotedImage :
    let image := "a:url(b;c);d:'e\\';')\\;".toList
    let unclosed := "a:'b\\'".toList
    let behind := "f:g;h".toList
    ';' ∉ marks ∧ AtTop image ∧ ¬ AtTop unclosed ∧
      splitTopLevel ';' (image ++ ';' :: behind) =
        splitTopLevel ';' image ++ splitTopLevel ';' behind ∧
      ¬ CutBehind ';' unclosed (unclosed ++ ';' :: behind) := by
  intro image unclosed behind
  have hseparator : ';' ∉ marks := by decide
  have himage : AtTop image := by decide +kernel
  have hopen : ¬ AtTop unclosed := by decide +kernel
  obtain ⟨-, hcuts⟩ := splitTopLevel_cuts ';'
  exact ⟨hseparator, himage, hopen, (hcuts hseparator image behind).2 himage,
    fun h => hopen ((hcuts hseparator unclosed behind).1.mp h)⟩

end StickerPages.Style
