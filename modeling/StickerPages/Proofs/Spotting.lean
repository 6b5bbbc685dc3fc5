import Mathlib.Data.List.TakeWhile
import StickerPages.Proofs.Segments

/-!
# Where known codes stand

The first reading of a page meets every code, known or not, and passes over what it has met. One would
like an unknown code to be text like any other, so that a page is read as if it were cut at its known
codes alone. Both ways of reading are the same cut of a page for two choices of the codes that count
(`Cut`), and so they can be laid side by side.

They differ in one place only. An unknown code is passed over together with its closing colon, and if
that colon opens a known code, then the known code is not met: in `10:30:smile:` the sticker stays
unfilled (`not_inert`). Everywhere else unknown codes are inert, and a page is filled as one would
like exactly if no known code is swallowed in this way (`fill_inert_iff`).
-/

namespace StickerPages.Content

variable {map : List (String × String)} {style : String} {c d : Code} {cs rest : List Char}

/-- The table has a picture for this code. -/
def Known (map : List (String × String)) (c : Code) : Prop :=
  (map.lookup (":" ++ String.ofList c.name ++ ":")).isSome = true

instance : Decidable (Known map c) := inferInstanceAs (Decidable (_ = true))

/-! ## Codes in a text -/

/-- A code stands at the start of a text, and what follows it does not start with a backslash. -/
structure Begins (c : Code) (cs rest : List Char) : Prop where
  wellFormed : (Segment.code c).WellFormed
  written : cs = c.written ++ rest
  unslashed : rest.head? ≠ some '\\'

/-- The code's characters up to the closing colon. -/
def Code.opening (c : Code) : List Char := ':' :: (c.before ++ c.name ++ c.after)

theorem Code.written_append (c : Code) (rest : List Char) :
    c.written ++ rest = c.opening ++ ':' :: rest := by
  simp [Code.written, Code.opening]

theorem code?_sound (h : code? cs = some (c, rest)) : Begins c (':' :: cs) rest := by
  have hblank (xs : List Char) : ∀ b ∈ xs.takeWhile Text.isBlank, Text.isBlank b = true :=
    fun b hb => List.mem_takeWhile_imp hb
  unfold code? at h
  dsimp only at h
  split at h
  next r hr =>
    split at h
    next => cases h
    next hgood =>
      cases h
      rw [Bool.or_eq_true, not_or, List.isEmpty_iff, beq_iff_eq] at hgood
      obtain ⟨hname, hslash⟩ := hgood
      refine ⟨⟨hblank _, ⟨hname, fun b hb => List.mem_takeWhile_imp hb⟩, hblank _⟩, ?_, hslash⟩
      rw [Code.written_append, ← hr, Code.opening]
      simp only [List.append_assoc, List.cons_append, List.takeWhile_append_dropWhile]
  next => cases h

/-- What is read is what stands there. -/
theorem code?_iff : code? cs = some (c, rest) ↔ Begins c (':' :: cs) rest := by
  constructor
  · exact code?_sound
  · rintro ⟨hc, hwritten, hrest⟩
    obtain rfl : cs = c.before ++ c.name ++ c.after ++ ':' :: rest := by
      simpa [Code.written] using hwritten
    exact code?_written hc hrest

theorem Begins.exists_colon (h : Begins c cs rest) : ∃ r, cs = ':' :: r :=
  ⟨_, h.written⟩

/-- One code at most stands at the start of a text. -/
theorem Begins.unique {rest' : List Char} (h : Begins c cs rest) (h' : Begins d cs rest') :
    c = d ∧ rest = rest' := by
  obtain ⟨r, rfl⟩ := h.exists_colon
  -- reading is a function
  have hsame := (code?_iff.mpr h).symm.trans (code?_iff.mpr h')
  exact Prod.mk.inj (Option.some.inj hsame)

/-- Between the colons there is neither a colon nor a backslash. -/
theorem Begins.inside (h : Begins c cs rest) :
    ∀ x ∈ c.before ++ c.name ++ c.after, x ≠ ':' ∧ x ≠ '\\' := by
  obtain ⟨hbefore, ⟨-, hname⟩, hafter⟩ := h.wellFormed
  have hblank {x : Char} (hx : Text.isBlank x = true) : x ≠ ':' ∧ x ≠ '\\' := by
    constructor
    · rintro rfl
      exact absurd hx (by decide)
    · rintro rfl
      exact absurd hx (by decide)
  intro x hx
  rcases List.mem_append.mp hx with hx | hx
  · rcases List.mem_append.mp hx with hx | hx
    · exact hblank (hbefore x hx)
    · exact ⟨ne_of_isNameChar (hname x hx) (by decide), ne_of_isNameChar (hname x hx) (by decide)⟩
  · exact hblank (hafter x hx)

/-! ## Cutting a text at its codes -/

/-- A text, read from left to right, is cut at the codes that count: a piece is one of these codes, or
a character at which none of them starts. A colon behind a backslash starts none; `slashed` says that
a backslash stands in front of the text. -/
inductive Cut (counts : Code → Prop) : Bool → List Char → List (Char ⊕ Code) → Prop
  | done {slashed : Bool} : Cut counts slashed [] []
  | code {c : Code} {cs rest : List Char} {ps : List (Char ⊕ Code)} (hcode : Begins c cs rest)
      (hcounts : counts c) (hrest : Cut counts false rest ps) : Cut counts false cs (.inr c :: ps)
  | plain {slashed : Bool} {x : Char} {r : List Char} {ps : List (Char ⊕ Code)}
      (hnone : slashed = false → ∀ c rest, Begins c (x :: r) rest → ¬counts c)
      (hrest : Cut counts (x == '\\') r ps) : Cut counts slashed (x :: r) (.inl x :: ps)

def pieceText : Char ⊕ Code → List Char
  | .inl x => [x]
  | .inr c => c.written

/-- The text that was cut. -/
def textOf (ps : List (Char ⊕ Code)) : List Char := ps.flatMap pieceText

variable {counts : Code → Prop} {slashed : Bool} {ps qs : List (Char ⊕ Code)}

/-- Nothing is lost by a cut. -/
theorem Cut.textOf_eq (h : Cut counts slashed cs ps) : textOf ps = cs := by
  induction h with
  | done => rfl
  | code hcode _ _ ih =>
      rw [hcode.written, textOf, List.flatMap_cons]
      exact congrArg _ ih
  | plain _ _ ih =>
      rw [textOf, List.flatMap_cons]
      exact congrArg _ ih

theorem Cut.wellFormed (h : Cut counts slashed cs ps) (hc : .inr c ∈ ps) :
    (Segment.code c).WellFormed := by
  induction h with
  | done => cases hc
  | code hcode _ _ ih =>
      rcases List.mem_cons.mp hc with heq | hc
      · cases heq
        exact hcode.wellFormed
      · exact ih hc
  | plain _ _ ih => exact ih ((List.mem_cons.mp hc).resolve_left Sum.inr_ne_inl)

/-- There is one way to cut a text, -/
theorem Cut.unique (h : Cut counts slashed cs ps) : Cut counts slashed cs qs → qs = ps := by
  induction h generalizing qs with
  | done =>
      intro h'
      cases h' with
      | done => rfl
      | code hcode' =>
          obtain ⟨r, hr⟩ := hcode'.exists_colon
          cases hr
  | code hcode hcounts _ ih =>
      intro h'
      cases h' with
      | done =>
          obtain ⟨r, hr⟩ := hcode.exists_colon
          cases hr
      | code hcode' _ hrest' =>
          obtain ⟨rfl, rfl⟩ := hcode.unique hcode'
          rw [ih hrest']
      | plain hnone' => exact absurd hcounts (hnone' rfl _ _ hcode)
  | plain hnone _ ih =>
      intro h'
      cases h' with
      | code hcode' hcounts' => exact absurd hcounts' (hnone rfl _ _ hcode')
      | plain _ hrest' => rw [ih hrest']

/-- whatever codes count. -/
theorem exists_cut (counts : Code → Prop) (slashed : Bool) (cs : List Char) :
    ∃ ps, Cut counts slashed cs ps := by
  -- what is left behind a code or a character is shorter
  induction hn : cs.length using Nat.strongRecOn generalizing slashed cs with
  | ind n ih =>
    subst hn
    cases cs with
    | nil => exact ⟨[], .done⟩
    | cons x r =>
        by_cases hcode : slashed = false ∧ ∃ c rest, Begins c (x :: r) rest ∧ counts c
        · obtain ⟨rfl, c, rest, hcode, hcounts⟩ := hcode
          have hlength : rest.length < (x :: r).length := by
            rw [hcode.written, Code.written_append]
            simp
            omega
          obtain ⟨ps, hps⟩ := ih _ hlength false rest rfl
          exact ⟨_, .code hcode hcounts hps⟩
        · obtain ⟨ps, hps⟩ := ih _ (Nat.lt_succ_self _) (x == '\\') r rfl
          exact ⟨_, .plain (fun hs c rest hc hcounts => hcode ⟨hs, c, rest, hc, hcounts⟩) hps⟩

/-- The first reading cuts at every code. -/
theorem cut_pieces (slashed : Bool) (cs : List Char) :
    Cut (fun _ => True) slashed cs (pieces slashed cs) := by
  induction slashed, cs using pieces.induct with
  | case1 slashed =>
      rw [pieces]
      exact .done
  | case2 slashed x r hopen c rest hread _ ih =>
      obtain ⟨rfl, rfl⟩ : x = ':' ∧ slashed = false := by simpa using hopen
      rw [pieces, if_pos hopen]
      split
      next hread' =>
        cases hread.symm.trans hread'
        exact .code (code?_iff.mp hread) trivial ih
      next hread' => cases hread.symm.trans hread'
  | case3 slashed x r hopen hread ih =>
      obtain ⟨rfl, rfl⟩ : x = ':' ∧ slashed = false := by simpa using hopen
      rw [pieces, if_pos hopen]
      split
      next hread' => cases hread.symm.trans hread'
      next =>
        refine .plain (fun _ c rest hc => ?_) ih
        cases hread.symm.trans (code?_iff.mpr hc)
  | case4 slashed x r hopen ih =>
      rw [pieces, if_neg hopen]
      refine .plain (fun hs c rest hc => ?_) ih
      obtain ⟨r', hr⟩ := hc.exists_colon
      cases hr
      simp [hs] at hopen

/-- Where no code starts, characters are pieces of their own. -/
theorem Cut.passes {xs : List Char} (hxs : ∀ x ∈ xs, x ≠ ':' ∧ x ≠ '\\')
    (h : Cut counts false (xs ++ rest) ps) :
    ∃ ps', ps = xs.map .inl ++ ps' ∧ Cut counts false rest ps' := by
  induction xs generalizing ps with
  | nil => exact ⟨ps, rfl, h⟩
  | cons x r ih =>
      obtain ⟨hcolon, hslash⟩ := hxs x List.mem_cons_self
      cases h with
      | code hcode =>
          obtain ⟨r', hr⟩ := hcode.exists_colon
          cases hr
          exact absurd rfl hcolon
      | plain _ hrest =>
          have hunslashed : (x == '\\') = false := by simpa using hslash
          rw [hunslashed] at hrest
          obtain ⟨ps', rfl, hps'⟩ := ih (fun y hy => hxs y (List.mem_cons_of_mem _ hy)) hrest
          exact ⟨ps', rfl, hps'⟩

/-- A code that does not count is text up to its closing colon. -/
theorem Cut.over (hcode : Begins c cs rest) (hc : ¬counts c) (h : Cut counts false cs ps) :
    ∃ ps', ps = c.opening.map .inl ++ ps' ∧ Cut counts false (':' :: rest) ps' := by
  have hinside := hcode.inside
  obtain ⟨-, rfl, -⟩ := id hcode
  rw [Code.written_append, Code.opening, List.cons_append] at h
  cases h with
  | code hcode' hcounts' =>
      rw [← List.cons_append, ← Code.opening, ← Code.written_append] at hcode'
      exact absurd ((hcode.unique hcode').1 ▸ hcounts') hc
  | plain _ hrest =>
      obtain ⟨ps', rfl, hps'⟩ := Cut.passes hinside hrest
      exact ⟨ps', rfl, hps'⟩

/-! ## Known codes that are not met -/

/-- An unknown code among these pieces closes with the colon that opens a known one. -/
def Swallows (map : List (String × String)) (ps : List (Char ⊕ Code)) : Prop :=
  ∃ front u back k rest, ps = front ++ .inr u :: back ∧ ¬Known map u ∧
    Begins k (':' :: textOf back) rest ∧ Known map k

theorem swallows_cons {p : Char ⊕ Code} :
    Swallows map (p :: ps) ↔
      (∃ u k rest, p = .inr u ∧ ¬Known map u ∧ Begins k (':' :: textOf ps) rest ∧ Known map k) ∨
        Swallows map ps := by
  constructor
  · rintro ⟨front, u, back, k, rest, hps, hu, hk, hknown⟩
    cases front with
    | nil =>
        obtain ⟨rfl, rfl⟩ := List.cons.inj hps
        exact .inl ⟨u, k, rest, rfl, hu, hk, hknown⟩
    | cons q front =>
        obtain ⟨-, rfl⟩ := List.cons.inj hps
        exact .inr ⟨front, u, back, k, rest, rfl, hu, hk, hknown⟩
  · rintro (⟨u, k, rest, rfl, hu, hk, hknown⟩ | ⟨front, u, back, k, rest, rfl, hu, hk, hknown⟩)
    · exact ⟨[], u, ps, k, rest, rfl, hu, hk, hknown⟩
    · exact ⟨p :: front, u, back, k, rest, rfl, hu, hk, hknown⟩

theorem fillPiece_unknown (h : ¬Known map c) : fillPiece map style (.inr c) = c.written := by
  have hnone : map.lookup (":" ++ String.ofList c.name ++ ":") = none := by
    rwa [Known, Bool.not_eq_true, Option.isSome_eq_false_iff, Option.isNone_iff_eq_none] at h
  rw [fillPiece, hnone]

/-- A known code is filled with a picture, which does not start with a colon. -/
theorem fillPiece_known (style : String) (h : Known map c) :
    ∃ r, fillPiece map style (.inr c) = '<' :: r := by
  obtain ⟨url, hurl⟩ := Option.isSome_iff_exists.mp h
  obtain ⟨r, hr⟩ := picture_head url (String.ofList c.name) style
  exact ⟨r, by rw [fillPiece, hurl]; exact hr⟩

/-- **The two cuts fill a page alike exactly if no known code is swallowed.** -/
theorem Cut.fill_eq_iff (hall : Cut (fun _ => True) slashed cs qs)
    (hknown : Cut (Known map) slashed cs ps) :
    qs.flatMap (fillPiece map style) = ps.flatMap (fillPiece map style) ↔ ¬Swallows map qs := by
  induction hall generalizing ps with
  | done =>
      obtain rfl := Cut.done.unique hknown
      simp [Swallows]
  | @code c cs rest qs hcode _ hrest ih =>
      by_cases hc : Known map c
      · -- a known code is a piece of both cuts
        cases hknown with
        | done =>
            obtain ⟨r, hr⟩ := hcode.exists_colon
            cases hr
        | plain hnone => exact absurd hc (hnone rfl _ _ hcode)
        | code hcode' _ hrest' =>
            obtain ⟨rfl, rfl⟩ := hcode.unique hcode'
            rw [List.flatMap_cons, List.flatMap_cons, List.append_cancel_left_eq, ih hrest',
              swallows_cons]
            simp [hc]
      · -- an unknown code is a piece of one cut; in the other its closing colon is still to be read
        obtain ⟨ps', rfl, hps'⟩ := Cut.over hcode hc hknown
        rw [List.flatMap_cons, fillPiece_unknown hc, Code.written_append, List.flatMap_append,
          flatMap_fillPiece_inl, List.append_cancel_left_eq, swallows_cons, hrest.textOf_eq]
        cases hps' with
        | code hk hkknown _ =>
            -- here a bracket stands in one page and a colon in the other
            obtain ⟨r, hr⟩ := fillPiece_known style hkknown
            rw [List.flatMap_cons, hr]
            refine ⟨fun heq => ?_, fun h => absurd (.inl ⟨c, _, _, rfl, hc, hk, hkknown⟩) h⟩
            exact absurd (List.cons.inj heq).1 (by decide)
        | plain hnone hrest' =>
            rw [List.flatMap_cons, fillPiece, List.singleton_append, List.cons_inj_right,
              ih hrest']
            refine not_congr ⟨.inr, fun h => h.resolve_left ?_⟩
            rintro ⟨u, k, rest', -, -, hk, hkknown⟩
            exact hnone rfl k rest' hk hkknown
  | @plain slashed x r qs hnone _ ih =>
      -- where no code starts, no known one does
      cases hknown with
      | code hcode => exact absurd trivial (hnone rfl _ _ hcode)
      | plain _ hrest' =>
          rw [List.flatMap_cons, List.flatMap_cons, List.append_cancel_left_eq, ih hrest',
            swallows_cons]
          simp

/-- **Unknown codes are inert unless they swallow a known one.** A page has one cut at its known
codes, and the first reading fills the page as if it had been cut there exactly if no unknown code
that it meets closes with the colon that opens a known one. -/
theorem fill_inert_iff (map : List (String × String)) (style : String) (cs : List Char) :
    ∃ ps, Cut (Known map) false cs ps ∧ (∀ ps', Cut (Known map) false cs ps' → ps' = ps) ∧
      (fill map style cs = ps.flatMap (fillPiece map style) ↔ ¬Swallows map (pieces false cs)) := by
  obtain ⟨ps, hps⟩ := exists_cut (Known map) false cs
  exact ⟨ps, hps, fun ps' => hps.unique, (cut_pieces false cs).fill_eq_iff hps⟩

/-- Not every page is filled as if it had been cut at its known codes: a time of day in front of a
sticker takes its colon. -/
theorem not_inert :
    ¬∀ (map : List (String × String)) (style : String) (cs : List Char) (ps : List (Char ⊕ Code)),
      Cut (Known map) false cs ps → fill map style cs = ps.flatMap (fillPiece map style) := by
  intro h
  obtain ⟨ps, hps⟩ := exists_cut (Known [(":smile:", "/s.png")]) false "10:30:smile:".toList
  have hpieces : pieces false "10:30:smile:".toList =
      [.inl '1', .inl '0', .inr ⟨[], ['3', '0'], []⟩] ++ "smile:".toList.map .inl := by
    decide +kernel
  have hall := cut_pieces false "10:30:smile:".toList
  rw [hpieces] at hall
  have hfill := h _ "" _ ps hps
  rw [fill, hpieces] at hfill
  refine (hall.fill_eq_iff hps).mp hfill ⟨[.inl '1', .inl '0'], _, _, ⟨[], "smile".toList, []⟩, [],
    rfl, ?_, ?_, ?_⟩
  · decide
  · exact code?_iff.mp (by decide)
  · decide

end StickerPages.Content
