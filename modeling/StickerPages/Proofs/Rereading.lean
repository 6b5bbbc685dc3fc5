import Mathlib.Algebra.BigOperators.Group.List.Lemmas
import Mathlib.Algebra.Order.BigOperators.Group.List
import Mathlib.Algebra.Ring.Nat
import StickerPages.Proofs.Restyling

/-!
# Declarations that are read back

Declarations that are written down are read back as they were if names and values are such as reading
gives and each declaration ends where it is written to end (`parse_serialize`). Nothing less will do:
`parse_serialize_iff`.

That a declaration which is cut, or which leaves something open, is not read back is not to be seen
from it alone: a name may come again, and the later value counts. So it is a matter of counting. What
is read out of a text has no more colons and semicolons in it than the text has, and every cut uses
one semicolon up (`sum_count_split`). If what was written comes back, then the cuts are as many as the
declarations, and the only part that is no declaration is one with no colon and no semicolon in it
(`exists_leftOver`). The first part then has to be the first declaration, and so on.
-/

namespace StickerPages.Text

theorem count_trim {x : Char} (hx : isBlank x = false) (cs : List Char) :
    (trim cs).count x = cs.count x := by
  have hdrop (cs : List Char) : (cs.dropWhile isBlank).count x = cs.count x := by
    have hnone : x ∉ cs.takeWhile isBlank := by
      intro hmem
      rw [List.mem_takeWhile_imp hmem] at hx
      cases hx
    have hsplit := List.takeWhile_append_dropWhile (p := isBlank) (l := cs)
    rw [← congrArg (List.count x) hsplit, List.count_append, List.count_eq_zero.mpr hnone,
      Nat.zero_add]
  rw [trim, trimRight, trimLeft, List.count_reverse, hdrop, List.count_reverse, hdrop]

end StickerPages.Text

namespace StickerPages.Style

variable {separator x : Char} {s : Cursor} {cs part : List Char} {d : String × String}
  {ds : Declarations}

/-! ## The first part -/

/-- Only a separator separates, and only outside of everything. -/
theorem advance_eq_none {c : Char} (h : s.advance separator c = none) :
    c = separator ∧ s = .outside := by
  obtain ⟨depth, quote, escaped⟩ := s
  unfold Cursor.advance at h
  dsimp only at h
  rw [Cursor.outside, Cursor.mk.injEq]
  grind

/-- The part that a reading is in grows by what is read; what follows it does not depend on it. -/
theorem exists_splitFrom (separator : Char) (s : Cursor) (cs : List Char) :
    ∃ y ps, y <+: cs ∧ ∀ part, splitFrom separator s part cs = (part.reverse ++ y) :: ps := by
  induction cs generalizing s with
  | nil => exact ⟨[], [], List.nil_prefix, fun part => by rw [splitFrom, List.append_nil]⟩
  | cons c r ih =>
      cases hc : s.advance separator c with
      | none =>
          refine ⟨[], splitFrom separator s [] r, List.nil_prefix, fun part => ?_⟩
          rw [splitFrom, hc, List.append_nil]
      | some t =>
          obtain ⟨y, ps, hy, hsplit⟩ := ih t
          refine ⟨c :: y, ps, List.cons_prefix_cons.mpr ⟨rfl, hy⟩, fun part => ?_⟩
          rw [splitFrom, hc]
          dsimp only
          rw [hsplit, List.reverse_cons, List.append_assoc]
          rfl

/-- Text with a cut in it, whatever follows. -/
theorem splitFrom_cut (h : s.over separator cs = none) :
    ∃ y z, cs = y ++ separator :: z ∧ ∀ part rest,
      splitFrom separator s part (cs ++ rest) =
        (part.reverse ++ y) :: splitTopLevel separator (z ++ rest) := by
  induction cs generalizing s with
  | nil => cases h
  | cons c r ih =>
      cases hc : s.advance separator c with
      | none =>
          obtain ⟨rfl, rfl⟩ := advance_eq_none hc
          refine ⟨[], r, rfl, fun part rest => ?_⟩
          rw [List.cons_append, splitFrom, hc, List.append_nil, splitTopLevel]
      | some t =>
          have hrest : t.over separator r = none := by
            rwa [Cursor.over, List.foldlM_cons, hc] at h
          obtain ⟨y, z, rfl, hsplit⟩ := ih hrest
          refine ⟨c :: y, z, rfl, fun part rest => ?_⟩
          rw [List.cons_append, splitFrom, hc]
          dsimp only
          rw [hsplit, List.reverse_cons, List.append_assoc]
          rfl

/-! ## Counting characters -/

/-- **No character is lost by cutting,** but for one separator at each cut. -/
theorem sum_count_split (separator x : Char) (text : List Char) :
    ((splitTopLevel separator text).map fun p => p.count x + [separator].count x).sum =
      text.count x + [separator].count x := by
  have hcons (c : Char) (cs : List Char) : (c :: cs).count x = [c].count x + cs.count x := by
    rw [← List.count_append, List.singleton_append]
  have hfrom (cs : List Char) : ∀ (s : Cursor) (part : List Char),
      ((splitFrom separator s part cs).map fun p => p.count x + [separator].count x).sum =
        part.count x + cs.count x + [separator].count x := by
    induction cs with
    | nil =>
        intro s part
        rw [splitFrom, List.map_singleton, List.sum_singleton, List.count_reverse, List.count_nil]
        rfl
    | cons c r ih =>
        intro s part
        cases hadvance : s.advance separator c with
        | none =>
            obtain ⟨rfl, -⟩ := advance_eq_none hadvance
            rw [splitFrom, hadvance]
            dsimp only
            rw [List.map_cons, List.sum_cons, ih, List.count_reverse, List.count_nil, hcons c r]
            omega
        | some t =>
            rw [splitFrom, hadvance]
            dsimp only
            rw [ih, hcons c part, hcons c r]
            omega
  rw [splitTopLevel, hfrom, List.count_nil, Nat.zero_add]

/-! ## What is read and what is left over -/

/-- The characters by which declarations are told apart: a colon and a semicolon. -/
def IsMark (x : Char) : Prop := x = ':' ∨ x = ';'

theorem IsMark.count_nameKey (hx : IsMark x) (name : List Char) :
    (nameKey name).toList.count x = name.count x := by
  rw [nameKey, String.toList_ofList]
  split
  · rfl
  · rcases hx with rfl | rfl
    · exact Text.count_small (by decide) (by decide) name
    · exact Text.count_small (by decide) (by decide) name

theorem IsMark.count_trim (hx : IsMark x) (cs : List Char) :
    (Text.trim cs).count x = cs.count x := by
  rcases hx with rfl | rfl
  · exact Text.count_trim (by decide) cs
  · exact Text.count_trim (by decide) cs

/-- A part that is a declaration is cut at its first colon. -/
theorem declaration?_split (h : declaration? part = some d) :
    ∃ name value, part = name ++ ':' :: value ∧ ':' ∉ name ∧
      d.1 = nameKey (Text.trim name) ∧ d.2 = String.ofList (Text.trim value) := by
  unfold declaration? at h
  split at h
  · next hcolon =>
    obtain ⟨name, value, rfl, hname⟩ :=
      List.eq_append_cons_of_mem (List.contains_iff_mem.mp hcolon)
    have hskip := ne_colon hname
    rw [List.takeWhile_append_of_pos hskip, List.dropWhile_append_of_pos hskip,
      List.takeWhile_cons_of_neg (by simp), List.dropWhile_cons_of_neg (by simp),
      List.append_nil] at h
    dsimp only at h
    split at h
    · cases h
    · cases h
      exact ⟨name, value, rfl, hname, rfl, rfl⟩
  · cases h

/-- Reading a declaration and writing it down loses no mark and makes none. -/
theorem IsMark.count_written (hx : IsMark x) (h : declaration? part = some d) :
    (written d).count x = part.count x := by
  have hspace : ([' '] : List Char).count x = 0 := by
    rcases hx with rfl | rfl <;> decide
  obtain ⟨name, value, rfl, -, hname, hvalue⟩ := declaration?_split h
  have hsplit : written d = d.1.toList ++ ([':'] ++ ([' '] ++ d.2.toList)) := rfl
  have hpart : name ++ ':' :: value = name ++ ([':'] ++ value) := rfl
  rw [hsplit, hpart, hname, hvalue, String.toList_ofList]
  simp only [List.count_append, hx.count_nameKey, hx.count_trim, hspace, Nat.zero_add]

/-- How often a character stands in a text and in the semicolon behind it. -/
def weight (x : Char) (cs : List Char) : Nat := cs.count x + [';'].count x

/-- The declarations that are read out of a text. Of those with one name the last will count. -/
def taken (cs : List Char) : Declarations := (splitTopLevel ';' cs).filterMap declaration?

/-- The parts of a text that are no declarations. -/
def leftOver (cs : List Char) : List (List Char) :=
  (splitTopLevel ';' cs).filter fun p => (declaration? p).isNone

theorem IsMark.sum_parts (hx : IsMark x) (ps : List (List Char)) :
    (ps.map (weight x)).sum =
      ((ps.filterMap declaration?).map fun d => weight x (written d)).sum +
        ((ps.filter fun p => (declaration? p).isNone).map (weight x)).sum := by
  induction ps with
  | nil => rfl
  | cons p r ih =>
      rw [List.map_cons, List.sum_cons, ih]
      cases hp : declaration? p with
      | none =>
          rw [List.filterMap_cons_none hp, List.filter_cons_of_pos (by rw [hp]; rfl), List.map_cons,
            List.sum_cons]
          omega
      | some d =>
          have hweight : weight x (written d) = weight x p := by
            rw [weight, hx.count_written hp, weight]
          rw [List.filterMap_cons_some hp, List.filter_cons_of_neg (by rw [hp]; simp),
            List.map_cons, List.sum_cons, hweight]
          omega

/-- **Every mark of a text** is in a declaration that is read out of it, or left over. -/
theorem IsMark.weight_eq (hx : IsMark x) (cs : List Char) :
    weight x cs = ((taken cs).map fun d => weight x (written d)).sum +
      ((leftOver cs).map (weight x)).sum := by
  rw [taken, leftOver, ← hx.sum_parts]
  exact (sum_count_split ';' x cs).symm

theorem IsMark.weight_following (hx : IsMark x) (ds : Declarations) :
    weight x (following ds) = (ds.map fun d => weight x (written d)).sum + [';'].count x := by
  have hspace : ([' '] : List Char).count x = 0 := by
    rcases hx with rfl | rfl <;> decide
  induction ds with
  | nil => simp [weight, following]
  | cons d r ih =>
      have hsplit : following (d :: r) = [' '] ++ (written d ++ ([';'] ++ following r)) := rfl
      rw [weight] at ih ⊢
      rw [hsplit, List.map_cons, List.sum_cons]
      simp only [List.count_append, hspace, weight] at ih ⊢
      omega

/-- Where what was written is read out again, all the marks are in it, but one semicolon. -/
theorem IsMark.sum_leftOver (hx : IsMark x) (h : taken (following ds) = ds) :
    ((leftOver (following ds)).map (weight x)).sum = [';'].count x := by
  have htaken := hx.weight_eq (following ds)
  rw [h, hx.weight_following] at htaken
  omega

/-! ## What is read out again -/

/-- A blank in front of the first declaration does not count. -/
theorem taken_following (hne : ds ≠ []) : taken (following ds) = taken (serialize ds).toList := by
  cases ds with
  | nil => exact absurd rfl hne
  | cons d r =>
      have hfollowing : following (d :: r) = ' ' :: (serialize (d :: r)).toList := by
        rw [toList_serialize]
        rfl
      obtain ⟨y, ps, -, hsplit⟩ := exists_splitFrom ';' .outside (serialize (d :: r)).toList
      have hspaced : splitTopLevel ';' (' ' :: (serialize (d :: r)).toList) = (' ' :: y) :: ps :=
        hsplit [' ']
      have hplain : splitTopLevel ';' (serialize (d :: r)).toList = y :: ps := hsplit []
      rw [hfollowing, taken, taken, hspaced, hplain, List.filterMap_cons, declaration?_blank,
        List.filterMap_cons]

/-- There is no room for more than what was written: it would have a colon of its own. -/
theorem eq_nil_of_perm {more : Declarations}
    (h : (taken (following ds)).Perm (ds ++ more)) : more = [] := by
  have hcolon : IsMark ':' := .inl rfl
  have hweight := hcolon.weight_eq (following ds)
  rw [hcolon.weight_following, (h.map _).sum_eq, List.map_append, List.sum_append] at hweight
  have hsum : (more.map fun d => weight ':' (written d)).sum = 0 := by
    have hzero : ([';'] : List Char).count ':' = 0 := by decide
    omega
  cases more with
  | nil => rfl
  | cons d r =>
      have hpos : 0 < (written d).count ':' := List.count_pos_iff.mpr (by simp [written])
      rw [List.map_cons, List.sum_cons, weight] at hsum
      omega

/-- **If what was written counts in the end,** then it is all that was read: no value is overridden
by a later one. -/
theorem taken_eq (hn : (ds.map (·.1)).Nodup) (h : Pairs.putAll [] (taken (following ds)) = ds) :
    taken (following ds) = ds := by
  have hsub : ds ⊆ taken (following ds) := by
    intro d hd
    rw [← h] at hd
    have hkeys : (([] : Declarations).map (·.1)).Nodup := List.nodup_nil
    rcases Pairs.mem_putAll _ hkeys hd with hd | ⟨hd, -⟩
    · exact hd
    · cases hd
  obtain ⟨ds', hds, hsublist⟩ := List.subperm_of_subset (List.Nodup.of_map _ hn) hsub
  obtain ⟨more, hmore⟩ := hsublist.exists_perm_append
  have hperm : (taken (following ds)).Perm (ds ++ more) := hmore.trans (hds.append_right more)
  rw [eq_nil_of_perm hperm, List.append_nil] at hperm
  rw [Pairs.putAll_of_nodup ((hperm.map (·.1)).nodup_iff.mpr hn)] at h
  exact h

/-! ## One declaration after the other -/

/-- How many semicolons stand in the name that a text begins with. -/
def nameCuts (cs : List Char) : Nat := (cs.takeWhile (· != ':')).count ';'

theorem nameCuts_append {name : List Char} (h : ':' ∉ name) (rest : List Char) :
    nameCuts (name ++ rest) = name.count ';' + nameCuts rest := by
  rw [nameCuts, List.takeWhile_append_of_pos (ne_colon h), List.count_append, nameCuts]

theorem nameCuts_colon (rest : List Char) : nameCuts (':' :: rest) = 0 := by
  rw [nameCuts, List.takeWhile_cons_of_neg (by simp)]
  rfl

/-- The name of a declaration that is read is the one that its part begins with, and so is that of any
text with this part in front. -/
theorem nameCuts_of_declaration? (h : declaration? part = some d) (rest : List Char) :
    nameCuts (part ++ rest) = d.1.toList.count ';' := by
  have hsemicolon : IsMark ';' := .inr rfl
  obtain ⟨name, value, rfl, hname, hd, -⟩ := declaration?_split h
  rw [hd, hsemicolon.count_nameKey, hsemicolon.count_trim, List.append_assoc,
    nameCuts_append hname, List.cons_append, nameCuts_colon, Nat.add_zero]

/-- One part is left over, and it has no marks. -/
theorem exists_leftOver (h : taken (following ds) = ds) :
    ∃ p, leftOver (following ds) = [p] ∧ ':' ∉ p ∧ ';' ∉ p := by
  have hcolons := IsMark.sum_leftOver (.inl rfl) h
  have hsemicolons := IsMark.sum_leftOver (.inr rfl) h
  have hcolon : ([';'] : List Char).count ':' = 0 := by decide
  have hsemicolon : ([';'] : List Char).count ';' = 1 := by decide
  -- each part left over takes a semicolon, and there is one
  cases hleft : leftOver (following ds) with
  | nil =>
      rw [hleft, hsemicolon] at hsemicolons
      cases hsemicolons
  | cons p ps =>
      rw [hleft, List.map_cons, List.sum_cons, weight] at hcolons hsemicolons
      cases ps with
      | nil =>
          refine ⟨p, rfl, List.count_eq_zero.mp ?_, List.count_eq_zero.mp ?_⟩ <;> omega
      | cons q qs =>
          rw [List.map_cons, List.sum_cons, weight] at hsemicolons
          omega

theorem taken_cons (h : declaration? part = some d) {ps : List (List Char)}
    (hparts : splitTopLevel ';' cs = part :: ps) :
    taken cs = d :: ps.filterMap declaration? := by
  rw [taken, hparts, List.filterMap_cons_some h]

theorem leftOver_cons (h : declaration? part = none) {ps : List (List Char)}
    (hparts : splitTopLevel ';' cs = part :: ps) :
    leftOver cs = part :: ps.filter fun p => (declaration? p).isNone := by
  rw [leftOver, hparts, List.filter_cons_of_pos (by rw [h]; rfl)]

/-- A declaration that is read out is the part it is read from, as far as semicolons go. -/
theorem count_of_taken_cons {r : Declarations} (h : taken cs = d :: r) {ps : List (List Char)}
    (hparts : splitTopLevel ';' cs = part :: ps) (hpart : declaration? part ≠ none) :
    part.count ';' = (written d).count ';' := by
  obtain ⟨e, he⟩ := Option.ne_none_iff_exists'.mp hpart
  rw [taken_cons he hparts] at h
  obtain rfl := (List.cons.inj h).1
  exact (IsMark.count_written (.inr rfl) he).symm

/-- A declaration is not read out of a part that begins in the middle of its name. -/
theorem declaration?_ne_of_cut {y z q rest : List Char} (hread : Readable d)
    (hyz : ' ' :: written d = y ++ ';' :: z) (hcolon : ':' ∉ y) (hq : q <+: z ++ rest) :
    declaration? q ≠ some d := by
  intro hd
  obtain ⟨t, ht⟩ := hq
  have hname := nameCuts_of_declaration? (declaration?_written hread).2 rest
  have hshort := nameCuts_of_declaration? hd t
  have hskip : ':' ∉ y ++ [';'] := by simp [hcolon]
  have htext : y ++ ';' :: z ++ rest = (y ++ [';']) ++ (q ++ t) := by
    simp [ht]
  rw [hyz, htext, nameCuts_append hskip, hshort, List.count_append] at hname
  have hsemicolon : ([';'] : List Char).count ';' = 1 := by decide
  omega

/-- There is no cut in the first declaration, if what was written is read out. -/
theorem over_ne_none {r : Declarations} (hread : Readable d)
    (h : taken (following (d :: r)) = d :: r) :
    Cursor.outside.over ';' (' ' :: written d) ≠ none := by
  intro hover
  obtain ⟨y, z, hyz, hsplit⟩ := splitFrom_cut hover
  obtain ⟨q, ps, hprefix, hrest⟩ := exists_splitFrom ';' .outside (z ++ ';' :: following r)
  have hparts : splitTopLevel ';' (following (d :: r)) = y :: q :: ps :=
    (hsplit [] (';' :: following r)).trans (congrArg _ (hrest []))
  obtain ⟨p, hleft, hcolon, -⟩ := exists_leftOver h
  cases hy : declaration? y with
  | some e =>
      -- the part would be the declaration, and has fewer semicolons
      have hsame := count_of_taken_cons h hparts (by rw [hy]; simp)
      have hless : (written d).count ';' = y.count ';' + (z.count ';' + 1) := by
        have hcount := congrArg (List.count ';') hyz
        rwa [List.count_cons_of_ne (by decide), List.count_append, List.count_cons_self] at hcount
      omega
  | none =>
      -- so it is what is left over, and the declaration is read from the next part
      rw [leftOver_cons hy hparts] at hleft
      obtain ⟨rfl, hnone⟩ := List.cons.inj hleft
      cases hq : declaration? q with
      | none =>
          rw [List.filter_cons_of_pos (by rw [hq]; rfl)] at hnone
          cases hnone
      | some e =>
          rw [taken, hparts, List.filterMap_cons_none hy, List.filterMap_cons_some hq] at h
          obtain rfl := (List.cons.inj h).1
          exact declaration?_ne_of_cut hread hyz hcolon hprefix hq

/-- **The first declaration ends where it is written to end,** if what was written is read out. -/
theorem whole_head {r : Declarations} (hread : Readable d)
    (h : taken (following (d :: r)) = d :: r) : Whole d := by
  obtain ⟨s, hs⟩ := Option.ne_none_iff_exists'.mp (over_ne_none hread h)
  cases hcut : s.advance ';' ';' with
  | none =>
      obtain ⟨-, rfl⟩ := advance_eq_none hcut
      exact hs
  | some t =>
      -- otherwise the first part goes on behind the semicolon
      exfalso
      obtain ⟨y, ps, -, hsplit⟩ := exists_splitFrom ';' t (following r)
      have hparts : splitTopLevel ';' (following (d :: r)) =
          (' ' :: written d ++ ';' :: y) :: ps := by
        have hover := splitFrom_over hs [] (';' :: following r)
        rw [splitFrom, hcut] at hover
        refine hover.trans ?_
        dsimp only
        rw [hsplit]
        simp
      cases hpart : declaration? (' ' :: written d ++ ';' :: y) with
      | some e =>
          have hsame := count_of_taken_cons h hparts (by rw [hpart]; simp)
          rw [List.cons_append, List.count_cons_of_ne (by decide), List.count_append,
            List.count_cons_self] at hsame
          omega
      | none =>
          obtain ⟨p, hleft, hcolon, -⟩ := exists_leftOver h
          rw [leftOver_cons hpart hparts] at hleft
          obtain ⟨rfl, -⟩ := List.cons.inj hleft
          exact hcolon (by simp [written])

/-- If what was written is read out, then all of it is whole. -/
theorem whole_of_taken (hread : ∀ d ∈ ds, Readable d) (h : taken (following ds) = ds) :
    ∀ d ∈ ds, Whole d := by
  induction ds with
  | nil => exact List.forall_mem_nil _
  | cons d r ih =>
      rw [List.forall_mem_cons] at hread ⊢
      have hd : Whole d := whole_head hread.1 h
      have hspace : Cursor.outside.over ';' (' ' :: written d) = some .outside := hd
      have hparts : splitTopLevel ';' (following (d :: r)) =
          (' ' :: written d) :: splitTopLevel ';' (following r) := splitTopLevel_cons hspace _
      rw [taken_cons (declaration?_written hread.1).2 hparts] at h
      exact ⟨hd, ih hread.2 (List.cons.inj h).2⟩

/-- **Declarations are read back as they were written** just if no name comes twice, names and values
are such as reading gives, and each declaration ends where it is written to end. -/
theorem parse_serialize_iff (ds : Declarations) :
    parse (serialize ds) = ds ↔
      (ds.map (·.1)).Nodup ∧ (∀ d ∈ ds, Readable d) ∧ ∀ d ∈ ds, Whole d := by
  by_cases hne : ds = []
  · subst hne
    refine iff_of_true ?_ ⟨List.nodup_nil, List.forall_mem_nil _, List.forall_mem_nil _⟩
    decide
  · constructor
    · intro h
      have hn : (ds.map (·.1)).Nodup := h ▸ nodup_keys_parse _
      have hread : ∀ d ∈ ds, Readable d := fun d hd => readable_of_mem_parse (h.symm ▸ hd)
      have hput : Pairs.putAll [] (taken (following ds)) = ds := by
        rw [taken_following hne]
        exact h
      exact ⟨hn, hread, whole_of_taken hread (taken_eq hn hput)⟩
    · rintro ⟨hn, hread, hwhole⟩
      exact parse_serialize hne hn hread hwhole

-- a semicolon in parentheses or behind a backslash ends nothing, and the one that is written behind a
-- value should not be one of these
example : Whole ("background", "url(data:image/png;base64,iVBO)") ∧ Whole ("content", "\\;") ∧
    ¬ Whole ("content", "x\\") := by decide

end StickerPages.Style
