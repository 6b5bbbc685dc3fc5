import StickerPages.Proofs.Calling
import StickerPages.Proofs.Foresight
import StickerPages.Proofs.Spotting

/-!
# Running text, filled

Filling a page does not know what markup is. But neither of its two readings goes over an opening
bracket or an ampersand, so a stretch of running text between two of them is filled by itself
(`rendered_append`): it becomes texts and pictures in turn (`weave`), and the reader reads them back
just so (`piecesOf_weave`).
-/

namespace StickerPages.Content

open Markup

variable {map : List (String × String)} {style : String} {c : Char} {cs rest run back : List Char}
  {code : Code}

/-- The characters of a page, filled. -/
def rendered (map : List (String × String)) (style : String) (cs : List Char) : List Char :=
  unescape (fill map style cs)

theorem toList_render (content : String) :
    (render map style content).toList = rendered map style content.toList :=
  String.toList_ofList

/-! ## Where filling stops -/

/-- The character can stand in no code, whether escaped or not. -/
def isBarrier (c : Char) : Bool := !isCodeChar c && !Text.isBlank c

theorem isBarrier_of_not_running (h : isRunning c = false) : isBarrier c = true := by
  have hc : c = '<' ∨ c = '&' := by simpa [isRunning, ← or_iff_not_imp_left] using h
  rcases hc with rfl | rfl <;> decide

theorem isCodeChar_of_isBarrier (h : isBarrier c = true) : isCodeChar c = false := by
  rw [isBarrier, Bool.and_eq_true, Bool.not_eq_true'] at h
  exact h.1

theorem Begins.append_barrier (hc : isBarrier c = true) (h : Begins code cs back)
    (rest : List Char) : Begins code (cs ++ c :: rest) (back ++ c :: rest) where
  wellFormed := h.wellFormed
  written := by rw [h.written, List.append_assoc]
  unslashed := by
    cases back with
    | nil =>
        rintro heq
        cases heq
        exact absurd hc (by decide)
    | cons d r => exact h.unslashed

theorem not_mem_written (hc : isBarrier c = true) (h : (Segment.code code).WellFormed) :
    c ∉ code.written := by
  obtain ⟨hbefore, ⟨-, hname⟩, hafter⟩ := h
  rw [isBarrier, Bool.and_eq_true, Bool.not_eq_true', Bool.not_eq_true'] at hc
  have hcolon : c ≠ ':' := by
    rintro rfl
    exact absurd hc.1 (by decide)
  have hblank : Text.isBlank c ≠ true := Bool.eq_false_iff.mp hc.2
  have hletter : isNameChar c ≠ true := fun h => by simp [isCodeChar, h] at hc
  simp only [Code.written, List.mem_cons, List.mem_append, List.not_mem_nil, or_false, not_or]
  exact ⟨hcolon, ⟨⟨fun h => hblank (hbefore c h), fun h => hletter (hname c h)⟩,
    fun h => hblank (hafter c h)⟩, hcolon⟩

/-- A code does not go over such a character. -/
theorem Begins.of_append_barrier (hc : isBarrier c = true)
    (h : Begins code (cs ++ c :: rest) back) : ∃ back', Begins code cs back' := by
  have hcut := h.written
  rcases List.append_eq_append_iff.mp hcut with ⟨t, hwritten, hback⟩ | ⟨t, rfl, rfl⟩
  · cases t with
    | nil =>
        rw [List.append_nil] at hwritten
        refine ⟨[], h.wellFormed, by rw [hwritten, List.append_nil], ?_⟩
        exact fun heq => by cases heq
    | cons d t =>
        obtain rfl : c = d := (List.cons.inj hback).1
        refine absurd ?_ (not_mem_written hc h.wellFormed)
        rw [hwritten]
        simp
  · refine ⟨t, h.wellFormed, rfl, ?_⟩
    cases t with
    | nil => exact fun heq => by cases heq
    | cons d t => exact h.unslashed

/-- Cuts of the texts in front of such a character and behind it are a cut of the whole. -/
theorem Cut.append_barrier {counts : Code → Prop} {slashed : Bool} {ps qs : List (Char ⊕ Code)}
    (hc : isBarrier c = true) (h : Cut counts slashed cs ps) (hrest : Cut counts false rest qs) :
    Cut counts slashed (cs ++ c :: rest) (ps ++ .inl c :: qs) := by
  induction h with
  | done =>
      have hslash : (c == '\\') = false := by
        rw [beq_eq_false_iff_ne]
        rintro rfl
        exact absurd hc (by decide)
      refine .plain (fun _ code back hcode => ?_) (hslash ▸ hrest)
      obtain ⟨r, hr⟩ := hcode.exists_colon
      cases hr
      exact absurd hc (by decide)
  | code hcode hcounts _ ih => exact .code (hcode.append_barrier hc rest) hcounts ih
  | @plain slashed x r ps hnone _ ih =>
      refine .plain (fun hs code back hcode => ?_) ih
      have hcode : Begins code (x :: r ++ c :: rest) back := hcode
      obtain ⟨back', hcode'⟩ := Begins.of_append_barrier hc hcode
      exact hnone hs code back' hcode'

theorem fill_append_barrier (hc : isBarrier c = true) (cs rest : List Char) :
    fill map style (cs ++ c :: rest) = fill map style cs ++ c :: fill map style rest := by
  have hcut := Cut.append_barrier hc (cut_pieces false cs) (cut_pieces false rest)
  rw [fill, (cut_pieces false (cs ++ c :: rest)).unique hcut |>.symm, List.flatMap_append,
    List.flatMap_cons]
  rfl

theorem rendered_nil : rendered map style [] = [] := by
  simp [rendered, fill, pieces, unescape]

theorem rendered_append_barrier (hc : isBarrier c = true) (cs rest : List Char) :
    rendered map style (cs ++ c :: rest) =
      rendered map style cs ++ c :: rendered map style rest := by
  rw [rendered, fill_append_barrier hc, unescape_append_barrier (isCodeChar_of_isBarrier hc)]
  rfl

/-- What ends with such a character is filled by itself. -/
theorem rendered_append_last (hc : isBarrier c = true) (cs rest : List Char) :
    rendered map style (cs ++ [c] ++ rest) =
      rendered map style (cs ++ [c]) ++ rendered map style rest := by
  rw [List.append_assoc, List.singleton_append, rendered_append_barrier hc,
    rendered_append_barrier hc, rendered_nil, List.append_assoc, List.singleton_append]

/-- **Text in front of markup is filled by itself.** -/
theorem rendered_append (hrest : ∀ c ∈ rest.head?, isRunning c = false) (cs : List Char) :
    rendered map style (cs ++ rest) = rendered map style cs ++ rendered map style rest := by
  cases rest with
  | nil => rw [rendered_nil, List.append_nil, List.append_nil]
  | cons c r =>
      have hc := isBarrier_of_not_running (hrest c rfl)
      have hfront : rendered map style ([] ++ c :: r) =
          rendered map style [] ++ c :: rendered map style r := rendered_append_barrier hc [] r
      rw [rendered_nil, List.nil_append, List.nil_append] at hfront
      rw [rendered_append_barrier hc, hfront]

/-! ## Texts and pictures in turn -/

/-- A part of a filled text: characters, or a picture by its address and the text that stands in for
it. -/
inductive Item where
  | text (cs : List Char)
  | picture (url alt : String)
deriving DecidableEq

namespace Item

/-- The part as it is written. -/
def chars (style : String) : Item → List Char
  | .text cs => cs
  | .picture url alt => (Content.picture url alt style).toList

/-- The part as it is read. -/
def piece (style : String) : Item → Piece
  | .text cs => .text cs
  | .picture url alt => .start "img" (pictureAttrs url alt style) false

/-- The part without its escapes. -/
def unescaped : Item → Item
  | .text cs => .text (unescape cs)
  | .picture url alt => .picture (Content.unescaped url) (Content.unescaped alt)

end Item

/-- A known code is a picture, anything else is text. -/
def itemOf (map : List (String × String)) : Char ⊕ Code → Item
  | .inl c => .text [c]
  | .inr code =>
    match map.lookup (":" ++ String.ofList code.name ++ ":") with
    | some url => .picture url (String.ofList code.name)
    | none => .text code.written

/-- Texts that follow each other made one text; the first argument is the text that may still go
on. -/
def gather : Option (List Char) → List Item → List Item
  | front, [] => front.toList.map .text
  | front, .text cs :: r => gather (some (front.getD [] ++ cs)) r
  | front, .picture url alt :: r => front.toList.map .text ++ .picture url alt :: gather none r

/-- A text, filled: texts and pictures in turn, with the escapes undone. An empty text stays one. -/
def weave (map : List (String × String)) (cs : List Char) : List Item :=
  (gather (if cs.isEmpty then some [] else none) ((pieces false cs).map (itemOf map))).map
    Item.unescaped

theorem chars_itemOf (p : Char ⊕ Code) : (itemOf map p).chars style = fillPiece map style p := by
  cases p with
  | inl c => rfl
  | inr code =>
      rw [itemOf, fillPiece]
      cases map.lookup (":" ++ String.ofList code.name ++ ":") <;> rfl

/-- A picture stops the second reading, so every text is read by itself. -/
theorem unescape_gather (items : List Item) :
    ∀ front : Option (List Char),
      unescape (front.getD [] ++ items.flatMap (Item.chars style)) =
        ((gather front items).map Item.unescaped).flatMap (Item.chars (unescaped style)) := by
  have hfront (front : Option (List Char)) :
      ((front.toList.map Item.text).map Item.unescaped).flatMap (Item.chars (unescaped style)) =
        unescape (front.getD []) := by
    cases front with
    | none => simp [unescape]
    | some cs => simp [Item.unescaped, Item.chars]
  induction items with
  | nil =>
      intro front
      rw [gather, hfront, List.flatMap_nil, List.append_nil]
  | cons item r ih =>
      intro front
      cases item with
      | text cs =>
          have hr := ih (some (front.getD [] ++ cs))
          rw [Option.getD_some, List.append_assoc] at hr
          rw [gather, ← hr, List.flatMap_cons, Item.chars]
      | picture url alt =>
          have hr := ih none
          rw [Option.getD_none, List.nil_append] at hr
          rw [gather, List.flatMap_cons, Item.chars, unescape_append_picture, hr,
            List.map_append, List.flatMap_append, hfront, List.map_cons, List.flatMap_cons]
          rfl

/-- **A text is filled with texts and pictures in turn.** -/
theorem rendered_eq_weave (cs : List Char) :
    rendered map style cs = (weave map cs).flatMap (Item.chars (unescaped style)) := by
  have hfill : fill map style cs =
      ((pieces false cs).map (itemOf map)).flatMap (Item.chars style) := by
    rw [fill, List.flatMap_map]
    exact congrArg (List.flatMap · _) (funext fun p => (chars_itemOf p).symm)
  have hfront : (if cs.isEmpty then some [] else none : Option (List Char)).getD [] = [] := by
    split <;> rfl
  rw [rendered, hfill, weave, ← unescape_gather, hfront, List.nil_append]

/-- The second reading changes a text where it changes it first. -/
theorem unescape_eq_of_append {front x y : List Char} (h : unescape front ++ x = front ++ y) :
    unescape front = front := by
  induction front with
  | nil => rw [unescape]
  | cons c r ih =>
      cases hread : escapedCode? (c :: r) with
      | none =>
          rw [unescape_of_none hread, List.cons_append, List.cons_append] at h
          rw [unescape_of_none hread, ih (List.cons.inj h).2]
      | some found =>
          obtain ⟨name, rest⟩ := found
          obtain ⟨-, form, hform, heq⟩ := escapedCode?_eq_some_iff.mp hread
          rw [unescape_of_some hread, heq] at h
          simp only [escapedForms, List.mem_cons, List.not_mem_nil, or_false] at hform
          -- a backslash stood where there is a colon now
          rcases hform with rfl | rfl | rfl
          · exact absurd (List.cons.inj h).1 (by decide)
          · exact absurd (List.cons.inj h).1 (by decide)
          · simp at h

/-- A text that filling leaves has no picture in it: one would stand where there was a colon. -/
theorem gather_of_same (ps : List (Char ⊕ Code)) : ∀ front : Option (List Char),
    front ≠ none ∨ ps ≠ [] →
    unescape (front.getD [] ++ ps.flatMap (fillPiece map style)) = front.getD [] ++ textOf ps →
    (gather front (ps.map (itemOf map))).map Item.unescaped =
      [.text (front.getD [] ++ textOf ps)] := by
  induction ps with
  | nil =>
      intro front hsome hsame
      cases front with
      | none => simp at hsome
      | some cs =>
          rw [Option.getD_some, List.flatMap_nil, textOf, List.flatMap_nil,
            List.append_nil] at hsame
          rw [List.map_nil, gather, Option.toList_some, List.map_singleton, List.map_singleton,
            Item.unescaped, hsame, Option.getD_some, textOf, List.flatMap_nil, List.append_nil]
  | cons p r ih =>
      intro front _ hsame
      -- the piece is text
      have htext (ds : List Char) (hitem : itemOf map p = .text ds) (hpiece : pieceText p = ds) :
          (gather front ((p :: r).map (itemOf map))).map Item.unescaped =
            [.text (front.getD [] ++ textOf (p :: r))] := by
        have hfill : fillPiece map style p = ds := by
          rw [← chars_itemOf, hitem]
          rfl
        have hcut : textOf (p :: r) = ds ++ textOf r := by
          rw [textOf, List.flatMap_cons, hpiece]
          rfl
        have hmore := ih (some (front.getD [] ++ ds)) (.inl (Option.some_ne_none _))
        rw [Option.getD_some, List.append_assoc, List.append_assoc] at hmore
        rw [List.flatMap_cons, hfill, hcut] at hsame
        rw [List.map_cons, hitem, gather, hmore hsame, hcut]
      cases p with
      | inl c => exact htext [c] rfl rfl
      | inr code =>
          cases hlookup : map.lookup (":" ++ String.ofList code.name ++ ":") with
          | none => exact htext code.written (by rw [itemOf, hlookup]) rfl
          | some url =>
              have hknown : Known map code := by
                rw [Known, hlookup]
                rfl
              obtain ⟨t, ht⟩ := fillPiece_known style hknown
              rw [List.flatMap_cons, ht, List.cons_append,
                unescape_append_barrier (by decide)] at hsame
              rw [unescape_eq_of_append hsame, List.append_cancel_left_eq] at hsame
              exact absurd (List.cons.inj hsame).1 (by decide)

theorem weave_of_same (h : rendered map style cs = cs) : weave map cs = [.text cs] := by
  have htext : textOf (pieces false cs) = cs := (cut_pieces false cs).textOf_eq
  have hfront : (if cs.isEmpty then some [] else none : Option (List Char)).getD [] = [] := by
    split <;> rfl
  have hsome : (if cs.isEmpty then some [] else none : Option (List Char)) ≠ none ∨
      pieces false cs ≠ [] := by
    cases cs with
    | nil => exact .inl (Option.some_ne_none _)
    | cons c r =>
        refine .inr fun hnil => ?_
        rw [hnil] at htext
        cases htext
  rw [weave]
  generalize (if cs.isEmpty then some [] else none : Option (List Char)) = front at hfront hsome ⊢
  have hsame : unescape (front.getD [] ++ (pieces false cs).flatMap (fillPiece map style)) =
      front.getD [] ++ textOf (pieces false cs) := by
    rw [hfront, htext]
    exact h
  rw [gather_of_same _ front hsome hsame, hfront, htext]
  rfl

/-! ## Read back -/

theorem unescape_ne_nil (h : cs ≠ []) : unescape cs ≠ [] := by
  obtain ⟨c, r, rfl⟩ := List.exists_cons_of_ne_nil h
  cases hread : escapedCode? (c :: r) with
  | some found =>
      rw [unescape_of_some hread]
      exact List.cons_ne_nil _ _
  | none =>
      rw [unescape_of_none hread]
      exact List.cons_ne_nil _ _

theorem mem_of_mem_unescape (h : c ∈ unescape cs) : c ∈ cs := by
  induction hn : cs.length using Nat.strongRecOn generalizing cs with
  | ind n ih =>
      cases hread : escapedCode? cs with
      | some found =>
          obtain ⟨name, rest⟩ := found
          obtain ⟨-, front, hfront, rfl⟩ := escapedCode?_eq_some_iff.mp hread
          rw [unescape_of_some hread, List.mem_cons, List.mem_append, List.mem_cons] at h
          have hrest : c ∈ unescape rest → c ∈ rest := fun h =>
            ih rest.length (hn ▸ escapedCode?_lt hread) h rfl
          rw [List.mem_append]
          simp only [escapedForms, List.mem_cons, List.not_mem_nil, or_false] at hfront
          rcases h with rfl | h | rfl | h
          · exact .inl (by rcases hfront with rfl | rfl | rfl <;> simp)
          · exact .inl (by rcases hfront with rfl | rfl | rfl <;> simp [h])
          · exact .inl (by rcases hfront with rfl | rfl | rfl <;> simp)
          · exact .inr (hrest h)
      | none =>
          cases cs with
          | nil =>
              rw [unescape] at h
              exact h
          | cons d r =>
              rw [unescape_of_none hread, List.mem_cons] at h
              rw [List.mem_cons]
              exact h.imp_right fun h => ih r.length (by rw [← hn]; simp) h rfl

theorem not_running_of_head (h : rest.head?.any isRunning = false) :
    ∀ c ∈ rest.head?, isRunning c = false := by
  intro c hc
  rwa [hc] at h

/-- A text of running characters, and of one at least. -/
def IsRun (cs : List Char) : Prop :=
  cs ≠ [] ∧ ∀ c ∈ cs, isRunning c = true

theorem IsRun.unescape (h : IsRun cs) : IsRun (unescape cs) :=
  ⟨unescape_ne_nil h.1, fun _ hc => h.2 _ (mem_of_mem_unescape hc)⟩

theorem IsRun.append {ds : List Char} (h : IsRun cs) (h' : IsRun ds) : IsRun (cs ++ ds) :=
  ⟨by simp [h.1], List.forall_mem_append.mpr ⟨h.2, h'.2⟩⟩

theorem piecesOf_run (h : IsRun run) (hrest : ∀ c ∈ rest.head?, isRunning c = false) :
    piecesOf none (run ++ rest) = .text run :: piecesOf none rest :=
  piecesOf_go (by simp [h.1]) (next_running h.1 h.2 hrest .feeding)

/-- A start tag that is written in full is read as it is written, whatever follows it. -/
theorem next_writtenTag {name : String} (hname : Plain endsTagName name)
    (hletter : name.toList.head?.all Char.isAlpha = true) {a : String × String}
    {attrs : List (String × String)} (hplain : ∀ b ∈ a :: attrs, Plain endsAttrName b.1)
    (rest : List Char) :
    next .feeding none (writtenTag name (a :: attrs) ++ rest) =
      .go [.start name (a :: attrs) false] (if rawNames.contains name then some name else none)
        rest := by
  have htag := startTag?_written hname hplain rest
  obtain ⟨c, ns, hcons⟩ := List.exists_cons_of_ne_nil hname.ne_nil
  have hc : c.isAlpha = true := by rwa [hcons] at hletter
  rw [hcons, List.cons_append] at htag
  rw [writtenTag_append, hcons, List.cons_append]
  refine next_opening _ ?_ ?_
  · rw [opensMarkup, hc]
    rfl
  · rw [← htag, markup?]
    all_goals
      intro _ heq
      cases heq
      exact absurd hc (by decide)

theorem piecesOf_picture (url alt style : String) (rest : List Char) :
    piecesOf none ((picture url alt style).toList ++ rest) =
      .start "img" (pictureAttrs url alt style) false :: piecesOf none rest := by
  have hname : Plain endsTagName "img" := ⟨by decide, by decide, by decide +kernel⟩
  have hread := next_writtenTag hname (by decide) (plain_pictureAttrs url alt style) rest
  rw [if_neg (by decide)] at hread
  rw [toList_picture]
  exact piecesOf_go (List.cons_ne_nil _ _) hread

/-- **What is woven is read back**, part by part, and then the rest. -/
theorem piecesOf_items {items : List Item} (hitems : ∀ cs, .text cs ∈ items → IsRun cs)
    (hrest : ∀ c ∈ rest.head?, isRunning c = false) :
    ∀ front : Option (List Char), (∀ cs ∈ front, IsRun cs) →
      piecesOf none (((gather front items).map Item.unescaped).flatMap (Item.chars style) ++ rest) =
        ((gather front items).map Item.unescaped).map (Item.piece style) ++ piecesOf none rest := by
  -- the text that has been gathered, in front of something that ends it
  have hfront {front : Option (List Char)} (hfront : ∀ cs ∈ front, IsRun cs) {rest : List Char}
      (hrest : ∀ c ∈ rest.head?, isRunning c = false) :
      piecesOf none (((front.toList.map Item.text).map Item.unescaped).flatMap (Item.chars style) ++
        rest) = ((front.toList.map Item.text).map Item.unescaped).map (Item.piece style) ++
          piecesOf none rest := by
    cases front with
    | none => rfl
    | some cs =>
        have hread := piecesOf_run (hfront cs rfl).unescape hrest
        simpa [Item.unescaped, Item.chars, Item.piece] using hread
  induction items with
  | nil => exact fun front h => hfront h hrest
  | cons item r ih =>
      intro front h
      have hr := ih fun cs hcs => hitems cs (List.mem_cons_of_mem _ hcs)
      cases item with
      | text cs =>
          have hcs := hitems cs List.mem_cons_self
          refine hr _ fun ds hds => ?_
          cases hds
          cases front with
          | none => exact hcs
          | some fs => exact (h fs rfl).append hcs
      | picture url alt =>
          have hnone := hr none fun _ hcs => by cases hcs
          obtain ⟨t, ht⟩ := picture_head (unescaped url) (unescaped alt) style
          have hstop (x : List Char) :
              ∀ c ∈ ((picture (unescaped url) (unescaped alt) style).toList ++ x).head?,
                isRunning c = false := by
            rw [ht]
            rintro c hc
            cases hc
            rfl
          rw [gather, List.map_append, List.flatMap_append, List.append_assoc, List.map_append,
            List.append_assoc, List.map_cons, List.flatMap_cons, Item.unescaped, Item.chars,
            List.append_assoc, hfront h (hstop _), piecesOf_picture, hnone]
          rfl

theorem itemOf_text {p : Char ⊕ Code} (h : itemOf map p = .text cs) : cs = pieceText p := by
  cases p with
  | inl c =>
      cases h
      rfl
  | inr code =>
      rw [itemOf] at h
      split at h <;> cases h
      rfl

theorem isRun_itemOf (hrun : ∀ c ∈ run, isRunning c = true) :
    ∀ cs, .text cs ∈ (pieces false run).map (itemOf map) → IsRun cs := by
  intro cs hcs
  obtain ⟨p, hp, hitem⟩ := List.mem_map.mp hcs
  have htext : textOf (pieces false run) = run := (cut_pieces false run).textOf_eq
  rw [itemOf_text hitem]
  refine ⟨?_, fun c hc => hrun c ?_⟩
  · cases p <;> exact List.cons_ne_nil _ _
  · rw [← htext]
    exact List.mem_flatMap.mpr ⟨p, hp, hc⟩

/-- **A running text is read, after filling, as the texts and pictures it was filled with.** -/
theorem piecesOf_weave (hrun : IsRun run) (hrest : ∀ c ∈ rest.head?, isRunning c = false) :
    piecesOf none (rendered map style run ++ rest) =
      (weave map run).map (Item.piece (unescaped style)) ++ piecesOf none rest := by
  have hsome : run.isEmpty = false := by simpa using hrun.1
  rw [rendered_eq_weave, weave, hsome, if_neg Bool.false_ne_true]
  exact piecesOf_items (isRun_itemOf hrun.2) hrest none fun _ h => by cases h

/-! ## No new characters -/

theorem mem_gather {items : List Item} {ds : List Char} (hc : c ∈ ds) :
    ∀ front : Option (List Char), .text ds ∈ gather front items →
      c ∈ front.getD [] ∨ ∃ es, .text es ∈ items ∧ c ∈ es := by
  have hfront {front : Option (List Char)} (h : .text ds ∈ front.toList.map Item.text) :
      c ∈ front.getD [] := by
    cases front with
    | none => cases h
    | some fs =>
        rw [Option.toList_some, List.map_singleton, List.mem_singleton] at h
        cases h
        exact hc
  induction items with
  | nil => exact fun front h => .inl (hfront h)
  | cons item r ih =>
      intro front h
      cases item with
      | text es =>
          rcases ih _ h with hmem | ⟨fs, hfs, hmem⟩
          · rw [Option.getD_some, List.mem_append] at hmem
            exact hmem.imp_right fun hmem => ⟨es, List.mem_cons_self, hmem⟩
          · exact .inr ⟨fs, List.mem_cons_of_mem _ hfs, hmem⟩
      | picture url alt =>
          rw [gather, List.mem_append, List.mem_cons] at h
          rcases h with h | h | h
          · exact .inl (hfront h)
          · cases h
          · rcases ih none h with hmem | ⟨fs, hfs, hmem⟩
            · cases hmem
            · exact .inr ⟨fs, List.mem_cons_of_mem _ hfs, hmem⟩

/-- The texts of a filled text have no characters but its own. -/
theorem mem_of_mem_weave {ds : List Char} (hds : .text ds ∈ weave map cs) (hc : c ∈ ds) :
    c ∈ cs := by
  obtain ⟨item, hitem, heq⟩ := List.mem_map.mp hds
  cases item with
  | picture url alt => cases heq
  | text es =>
      cases heq
      rcases mem_gather (mem_of_mem_unescape hc) _ hitem with hmem | ⟨fs, hfs, hmem⟩
      · split at hmem <;> cases hmem
      · obtain ⟨p, hp, hpiece⟩ := List.mem_map.mp hfs
        rw [← (cut_pieces false cs).textOf_eq]
        exact List.mem_flatMap.mpr ⟨p, hp, itemOf_text hpiece ▸ hmem⟩

end StickerPages.Content
