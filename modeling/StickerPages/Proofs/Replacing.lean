import StickerPages.Proofs.Weaving

/-!
# Codes in running text

A page may hold codes anywhere. What is wanted is that only its texts change when it is filled, and
for that the codes have to stand in running text: in no tag, no comment and no script, behind no tag
with a quote mark left open, and in front of the place where the reading is cut short, if there is
one (`InText`). Then every step of the reading goes as it did before (`InText.pieces_rendered`),
because only what follows it has changed, and that begins as it did (`follows_rendered`).
-/

namespace StickerPages.Content

open Markup

variable {map : List (String × String)} {style : String} {cs rest : List Char}

/-! ## What filling leaves of a text's beginning -/

theorem rendered_of_plain (hcolon : ':' ∉ cs) (hslash : '\\' ∉ cs) :
    rendered map style cs = cs := by
  have hplain : ∀ c ∈ cs, c ≠ ':' ∧ c ≠ '\\' := fun c hc =>
    ⟨fun heq => hcolon (heq ▸ hc), fun heq => hslash (heq ▸ hc)⟩
  have hpieces : pieces false cs = cs.map .inl := by
    have hread := pieces_plain hplain []
    rwa [List.append_nil, pieces, List.append_nil] at hread
  rw [rendered, fill, hpieces, flatMap_fillPiece_inl]
  exact unescape_of_not_mem hslash

/-- A filled text begins as it did, but a code at its start can become a picture and a backslash can
be lost. -/
theorem follows_rendered (cs : List Char) : Follows cs (rendered map style cs) := by
  have hcut := cut_pieces false cs
  rw [rendered, fill]
  generalize pieces false cs = ps at hcut
  -- the first reading puts in a picture or nothing, the second takes a backslash or nothing
  cases hcut with
  | done =>
      rw [List.flatMap_nil, unescape]
      exact .inl rfl
  | @code code _ rest ps hcode =>
      obtain ⟨r, rfl⟩ := hcode.exists_colon
      rw [List.flatMap_cons]
      by_cases hknown : Known map code
      · obtain ⟨t, ht⟩ := fillPiece_known style hknown
        rw [ht, List.cons_append, unescape_barrier (by decide)]
        exact .inr (.inl ⟨rfl, rfl⟩)
      · obtain ⟨t, ht⟩ := unescape_colon
          (code.before ++ code.name ++ code.after ++ [':'] ++ ps.flatMap (fillPiece map style))
        rw [fillPiece_unknown hknown, Code.written, List.cons_append, ht]
        exact .inl rfl
  | @plain _ x r ps =>
      rw [List.flatMap_cons, fillPiece, List.singleton_append]
      cases hread : escapedCode? (x :: ps.flatMap (fillPiece map style)) with
      | none =>
          rw [unescape_of_none hread]
          exact .inl rfl
      | some found =>
          obtain ⟨-, front, hfront, heq⟩ := escapedCode?_eq_some_iff.mp hread
          rw [unescape_of_some hread]
          simp only [escapedForms, List.mem_cons, List.not_mem_nil, or_false] at hfront
          rcases hfront with rfl | rfl | rfl
          · obtain rfl := (List.cons.inj heq).1
            exact .inr (.inr ⟨rfl, rfl⟩)
          · obtain rfl := (List.cons.inj heq).1
            exact .inr (.inr ⟨rfl, rfl⟩)
          · obtain rfl := (List.cons.inj heq).1
            exact .inl rfl

/-! ## Codes that stand in running text -/

/-- Whatever filling changes in this rest of a page is running text; in front of it the reading is
not cut short, and no start tag reads on for a quote mark. -/
inductive InText (map : List (String × String)) (style : String) : Option String → List Char → Prop
  /-- From here on nothing is changed. -/
  | same {raw : Option String} {cs : List Char} (hsame : rendered map style cs = cs)
      (htexts : ∀ ds, .text ds ∈ piecesOf raw cs → rendered map style ds = ds) :
      InText map style raw cs
  /-- Running text up to some markup. -/
  | text {run rest : List Char} (hrun : IsRun run)
      (hrest : ∀ c ∈ rest.head?, isRunning c = false) (h : InText map style none rest) :
      InText map style none (run ++ rest)
  /-- What a step of the reading takes: there is no code in it, nor in the text it is read as, say
  that of a reference. A start tag must be read in this way whatever follows it. -/
  | step {raw raw' : Option String} {taken rest : List Char} {found : List Piece}
      (hread : next .feeding raw (taken ++ rest) = .go found raw' rest)
      (hsure : raw = none → opensTag (taken ++ rest) = true →
        ∀ t, next .feeding none (taken ++ t) = .go found raw' t)
      (hsame : rendered map style (taken ++ rest) = taken ++ rendered map style rest)
      (htexts : ∀ ds, .text ds ∈ found → rendered map style ds = ds)
      (h : InText map style raw' rest) : InText map style raw (taken ++ rest)

/-- A start tag that is written in full, with no code in it. -/
theorem InText.writtenTag {name : String} (hname : Plain endsTagName name)
    (hletter : name.toList.head?.all Char.isAlpha = true) {a : String × String}
    {attrs : List (String × String)} (hplain : ∀ b ∈ a :: attrs, Plain endsAttrName b.1)
    (hsame : rendered map style (Markup.writtenTag name (a :: attrs)) =
      Markup.writtenTag name (a :: attrs))
    (h : InText map style (if rawNames.contains name then some name else none) rest) :
    InText map style none (Markup.writtenTag name (a :: attrs) ++ rest) := by
  have hread := next_writtenTag hname hletter hplain
  refine .step (hread rest) (fun _ _ => hread) ?_ ?_ h
  · have hlast : Markup.writtenTag name (a :: attrs) =
        ('<' :: (name.toList ++ writtenAttrs (a :: attrs))) ++ ['>'] := by
      simp [Markup.writtenTag]
    rw [hlast, rendered_append_last (by decide), ← hlast, hsame]
  · intro ds hds
    cases hds with
    | tail _ hds => cases hds

/-- What is read of the filled page in place of a piece: a text is filled, and all else stays. -/
def refill (map : List (String × String)) (style : String) : Piece → List Piece
  | .text cs => (weave map cs).map (Item.piece (unescaped style))
  | p => [p]

/-- Pieces whose texts have no codes stay. -/
theorem flatMap_refill {ps : List Piece}
    (h : ∀ cs, .text cs ∈ ps → rendered map style cs = cs) :
    ps.flatMap (refill map style) = ps := by
  induction ps with
  | nil => rfl
  | cons p r ih =>
      have hp : refill map style p = [p] := by
        cases p with
        | text cs =>
            rw [refill, weave_of_same (h cs List.mem_cons_self)]
            rfl
        | _ => rfl
      rw [List.flatMap_cons, hp, ih fun cs hcs => h cs (List.mem_cons_of_mem _ hcs),
        List.singleton_append]

/-- **If codes stand in running text, then of the filled page is read what was read before, with its
texts filled.** -/
theorem InText.pieces_rendered {raw : Option String} (h : InText map style raw cs)
    (hraw : ∀ name ∈ raw, name ∈ rawNames) :
    piecesOf raw (rendered map style cs) = (piecesOf raw cs).flatMap (refill map style) := by
  induction h with
  | same hsame htexts => rw [hsame, flatMap_refill htexts]
  | @text run rest hrun hrest _ ih =>
      have hbegin : Follows rest (rendered map style rest) := follows_rendered rest
      rw [rendered_append hrest, piecesOf_weave hrun (hbegin.not_running hrest), ih hraw,
        piecesOf_run hrun hrest, List.flatMap_cons]
      rfl
  | @step raw raw' taken rest found hread hsure hsame htexts _ ih =>
      have hraw' : ∀ name ∈ raw', name ∈ rawNames := by
        have hnames : ∀ name ∈ (next .feeding raw (taken ++ rest)).raw?, name ∈ rawNames :=
          raw_next hraw (taken ++ rest)
        rwa [hread] at hnames
      have hne : taken ≠ [] := by
        rintro rfl
        have hwithin := within_next .feeding raw ([] ++ rest)
        rw [hread] at hwithin
        exact Nat.lt_irrefl _ hwithin
      have hread' : next .feeding raw (taken ++ rendered map style rest) =
          .go found raw' (rendered map style rest) := by
        by_cases hstill : rendered map style rest = rest
        · rw [hstill, hread]
        · -- a rest of letters alone, with which a reference could go on, would have stayed
          have hbound : ∃ c ∈ rest, isReferenceChar c = false := by
            by_contra hall
            exact hstill (rendered_of_plain (fun hc => hall ⟨_, hc, rfl⟩)
              fun hc => hall ⟨_, hc, rfl⟩)
          by_cases htag : raw = none ∧ opensTag (taken ++ rest) = true
          · obtain ⟨rfl, htag⟩ := htag
            exact hsure rfl htag _
          · refine next_swap hraw (fun hnone => ?_) (follows_rendered rest) hbound hread
            exact Bool.eq_false_iff.mpr fun hopens => htag ⟨hnone, hopens⟩
      rw [hsame, piecesOf_go (by simp [hne]) hread, piecesOf_go (by simp [hne]) hread',
        List.flatMap_append, flatMap_refill htexts, ih hraw']

end StickerPages.Content
