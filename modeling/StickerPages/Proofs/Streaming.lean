import StickerPages.Proofs.Changes
import StickerPages.Proofs.Mirroring
import StickerPages.Proofs.Strides

/-!
# A text that comes in chunks

A text may be written to a page all at once or chunk by chunk, each chunk a piece of markup of its
own. Markup without tags and notes is read as one text, or as none (`Runs`), so either way the
element has a run of texts behind its children, and the runs have the same solid characters. The two
pages differ in how texts are cut, and a sweep does not see the difference.

`sweepUnder_recut` puts this together: what is said of two pages that differ in texts only, and of a
page that was written in chunks as a case of it.
-/

namespace StickerPages.Markup

/-! ## Markup that is nothing but text -/

/-- The markup is nothing but running text, and these are its characters. -/
def Runs (markup : String) (cs : List Char) : Prop :=
  ∃ ts : List (List Char), pieces markup.toList = ts.map Piece.text ∧ ts.flatten = cs

/-- Characters that open neither a tag nor a reference stand for themselves. -/
theorem runs_of_plain {markup : String}
    (h : (markup.toList.all fun c => c != '<' && c != '&') = true) :
    Runs markup markup.toList := by
  cases hcs : markup.toList with
  | nil => exact ⟨[], by rw [hcs]; rfl, rfl⟩
  | cons c r =>
      refine ⟨[c :: r], ?_, by simp⟩
      have hplain : ∀ d ∈ c :: r, (!(d == '<' || d == '&')) = true := by
        intro d hd
        simpa using List.all_eq_true.mp h d (hcs ▸ hd)
      have hnext : next .feeding none (c :: r) = .go [.text (c :: r)] none [] := by
        simp only [next]
        rw [List.takeWhile_eq_self_iff.mpr hplain, List.dropWhile_eq_nil_iff.mpr hplain]
        rfl
      rw [hcs, pieces_eq, piecesOf_go (List.cons_ne_nil c r) hnext]
      rfl

/-- Texts only add to the text that may still go on. -/
theorem foldl_take_texts (ts : List (List Char)) : ∀ b : Build, ∃ pending : Option (List Char),
    (ts.map Piece.text).foldl Build.take b = { b with pending } ∧
      pending.getD [] = ts.flatten.reverse ++ b.pending.getD [] := by
  induction ts with
  | nil => exact fun b => ⟨b.pending, rfl, by simp⟩
  | cons cs r ih =>
      intro b
      obtain ⟨pending, hfold, hpending⟩ := ih (b.take (.text cs))
      refine ⟨pending, hfold, ?_⟩
      rw [hpending]
      simp [Build.take]

end StickerPages.Markup

namespace StickerPages.Layout

open Markup Live

/-- Blanks may collapse, but what is solid stays. -/
theorem filter_collapse (cs : List Char) :
    ((collapse cs).filter fun c => !Text.isBlank c) = cs.filter fun c => !Text.isBlank c := by
  unfold collapse
  split
  · next hall =>
      have hblank : (cs.filter fun c => !Text.isBlank c) = [] := by
        rw [List.filter_eq_nil_iff]
        intro c hc
        have hcollapses := List.all_eq_true.mp hall c hc
        simp only [collapses, Bool.or_eq_true, beq_iff_eq] at hcollapses
        rcases hcollapses with (((rfl | rfl) | rfl) | rfl) | rfl <;> decide
      rw [hblank]
      split <;> rfl
  · rfl

/-- What running text is read as. -/
theorem fragment_runs {markup : String} {cs : List Char} (h : Runs markup cs) (f : Forest) :
    (∀ n ∈ (f.fragment markup).1, isText n = true) ∧
      solid (f.fragment markup).1 = cs.filter fun c => !Text.isBlank c := by
  obtain ⟨ts, hpieces, rfl⟩ := h
  obtain ⟨pending, hfold, hpending⟩ := foldl_take_texts ts (Build.start f.nextId)
  have hread : (f.fragment markup).1 =
      (({ Build.start f.nextId with pending }).finish).1.children := by
    rw [← hfold, ← hpieces]
    rfl
  -- all the text is still pending, last character first, when the markup ends
  have hreverse : pending.getD [] = ts.flatten.reverse := by
    rw [hpending]
    simp [Build.start]
  rw [hread]
  cases pending with
  | none =>
      have hnil : ts.flatten = [] := by simpa using hreverse.symm
      rw [hnil]
      exact ⟨fun n hn => absurd hn List.not_mem_nil, rfl⟩
  | some p =>
      obtain rfl : p = ts.flatten.reverse := hreverse
      have hleaf : (({ Build.start f.nextId with
          pending := some ts.flatten.reverse }).finish).1.children =
            [.leaf (f.nextId + 1) .plain
              (String.ofList (collapse ts.flatten.reverse.reverse))] := rfl
      rw [hleaf, List.reverse_reverse]
      refine ⟨fun n hn => by rw [List.mem_singleton.mp hn]; rfl, ?_⟩
      rw [solid, List.flatMap_singleton, characters, String.toList_ofList, filter_collapse]

/-! ## Texts behind the children of an element -/

variable {R : Kinship} {C : Nat → Nat → Prop} {f : Forest} {t : Nat}

theorem map_modifyChildren_texts {ts : List Node} (h : ∀ n ∈ ts, isText n = true) (t : Nat)
    (F : List Node → List Node) : ts.map (Node.modifyChildren t F) = ts := by
  refine (List.map_congr_left fun n hn => ?_).trans (List.map_id _)
  cases n with
  | leaf i k s => rfl
  | element i e cs => cases h _ hn

/-- Appending twice is appending both, since no text has children of its own. -/
theorem modifyChildren_append {as : List Node} (has : ∀ a ∈ as, isText a = true) (t : Nat)
    (bs : List Node) (n : Node) :
    (n.modifyChildren t (· ++ as)).modifyChildren t (· ++ bs) =
      n.modifyChildren t (· ++ (as ++ bs)) := by
  induction n using Node.induct with
  | leaf i k s => rfl
  | element i h cs ih =>
      have hcs : (cs.map (Node.modifyChildren t (· ++ as))).map (Node.modifyChildren t (· ++ bs)) =
          cs.map (Node.modifyChildren t (· ++ (as ++ bs))) := by
        rw [List.map_map]
        exact List.map_congr_left ih
      simp only [Node.modifyChildren, Node.modifyChildrenAll_eq]
      split
      · rw [List.map_append, hcs, map_modifyChildren_texts has, List.append_assoc]
      · rw [hcs]

theorem Recut.map {F G : Node → Node} {ns : List Node} (h : ∀ n ∈ ns, Recut R [F n] [G n]) :
    Recut R (ns.map F) (ns.map G) := by
  induction ns with
  | nil => exact .nil
  | cons n r ih =>
      exact (h n List.mem_cons_self).append (ih fun m hm => h m (List.mem_cons_of_mem _ hm))

/-- Behind the same children, two runs of text with the same solid characters make no difference. -/
theorem Recut.modifyChildren (hR : ∀ i h, R i h i h) {as bs : List Node}
    (has : ∀ a ∈ as, isText a = true) (hbs : ∀ b ∈ bs, isText b = true)
    (hsame : solid as = solid bs) (t : Nat) (n : Node) :
    Recut R (n.modifyChildren t (· ++ as)).children (n.modifyChildren t (· ++ bs)).children := by
  induction n using Node.induct with
  | leaf i k s => exact .nil
  | element i h cs ih =>
      have hbelow : Recut R (cs.map (Node.modifyChildren t (· ++ as)))
          (cs.map (Node.modifyChildren t (· ++ bs))) := by
        refine Recut.map fun c hc => ?_
        have hc := ih c hc
        cases c with
        | element j e ds => exact .element (hR j e) hc .nil
        | leaf j k s =>
            cases hk : k.isReading with
            | false => exact .note hk .nil
            | true =>
                have htext : ∀ n ∈ [Node.leaf j k s], isText n = true := by
                  intro n hn
                  rw [List.mem_singleton.mp hn]
                  exact hk
                exact .texts htext htext rfl .nil
      have hbehind : Recut R as bs := by
        simpa using Recut.texts has hbs hsame (Recut.nil (R := R))
      simp only [Node.modifyChildren, Node.modifyChildrenAll_eq, Node.children]
      split
      · exact hbelow.append hbehind
      · exact hbelow

/-! ## Writing in chunks -/

/-- Appends pieces of markup to an element, one after the other. -/
def stream (f : Forest) (t : Nat) (chunks : List String) : Forest :=
  chunks.foldl (fun f chunk => (f.appendMarkup t chunk).1) f

theorem numbered_stream (chunks : List String) :
    ∀ {f : Forest}, f.Numbered → (stream f t chunks).Numbered := by
  induction chunks with
  | nil => exact fun hf => hf
  | cons chunk r ih => exact fun hf => ih (effect_append hf t chunk).1.numbered

/-- **Chunks of running text make one run behind the element's children.** -/
theorem page_stream {chunks : List String} {texts : List (List Char)}
    (h : List.Forall₂ Runs chunks texts) (t : Nat) : ∀ f : Forest, ∃ ns : List Node,
      (∀ n ∈ ns, isText n = true) ∧
        solid ns = (texts.flatten.filter fun c => !Text.isBlank c) ∧
        (stream f t chunks).page = f.page.modifyChildren t (· ++ ns) := by
  induction h with
  | nil =>
      intro f
      refine ⟨[], fun n hn => absurd hn List.not_mem_nil, rfl, ?_⟩
      exact (Node.modifyChildren_id t List.append_nil f.page).symm
  | @cons chunk cs chunks texts hruns _ ih =>
      intro f
      obtain ⟨has, hsolid⟩ := fragment_runs hruns f
      obtain ⟨ns, hns, hsolid', hpage⟩ := ih (f.appendMarkup t chunk).1
      refine ⟨(f.fragment chunk).1 ++ ns, ?_, ?_, ?_⟩
      · intro n hn
        rcases List.mem_append.mp hn with hn | hn
        · exact has n hn
        · exact hns n hn
      · rw [solid, List.flatMap_append, List.filter_append, List.flatten_cons, List.filter_append,
          ← hsolid, ← hsolid']
        rfl
      · have hfirst : (f.appendMarkup t chunk).1.page =
            f.page.modifyChildren t (· ++ (f.fragment chunk).1) := rfl
        rw [hfirst, modifyChildren_append has] at hpage
        exact hpage

/-! ## What may be said of both pages -/

/-- Elements with the same name and the same attributes. -/
def SameHead : Kinship :=
  fun _ h _ e => h = e

/-- Elements with the same name and the same attributes, that answer to each other. -/
def SameHeadBy (C : Nat → Nat → Prop) : Kinship :=
  fun i h j e => h = e ∧ C i j

/-- The blocks of two pages answer to each other and are judged alike, and so are the stickers in no
block. -/
structure SameVerdicts (C : Nat → Nat → Prop) (tags : List String) (stickerClass : String)
    (page page' : Node) : Prop where
  blocks : List.Forall₂
    (fun b b' => C b.node.id b'.node.id ∧
      onlyStickers stickerClass b.node = onlyStickers stickerClass b'.node ∧
      judge stickerClass b.node (stickers stickerClass b) =
        judge stickerClass b'.node (stickers stickerClass b'))
    (blocks tags (Place.top page)) (blocks tags (Place.top page'))
  standalone : List.Forall₂ (fun p p' => C p.node.id p'.node.id)
    (standalone stickerClass tags (Place.top page))
    (standalone stickerClass tags (Place.top page'))

/-- Sweeping the two pages fails for the same reason, or counts the same and leaves two pages whose
elements have the same attributes, styles excepted. -/
def SweptAlike (C : Nat → Nat → Prop) (settings : Settings.Layout) (page page' : Node) : Prop :=
  (∃ fault, sweepUnder settings page = .error fault ∧ sweepUnder settings page' = .error fault) ∨
    ∃ swept swept' stats, sweepUnder settings page = .ok (swept, stats) ∧
      sweepUnder settings page' = .ok (swept', stats) ∧ Twin (ButStyle C) swept swept'

theorem Twin.butStyle {n m : Node} (ht : Twin (SameHeadBy C) n m) : Twin (ButStyle C) n m :=
  ht.imp fun _ _ _ _ hkin => ⟨hkin.2, congrArg unstyled hkin.1⟩

variable {page page' : Node}

theorem sameVerdicts (ht : Twin (SameHeadBy C) page page') (tags : List String)
    (stickerClass : String) : SameVerdicts C tags stickerClass page page' := by
  have hl := legible_butStyle C stickerClass
  have htop := ht.butStyle.top
  refine ⟨(htop.blocks hl tags).imp fun b b' hb => ?_, (htop.standalone hl tags).imp fun _ _ hp =>
    hp.answer⟩
  exact ⟨hb.answer, hb.node.onlyStickers hl, hb.node.judge hl (hb.stickers hl)⟩

theorem sweptAlike (hC : Relator.BiUnique C) (hn : page.Numbered) (hn' : page'.Numbered)
    (ht : Twin (SameHeadBy C) page page') (settings : Settings.Layout) :
    SweptAlike C settings page page' := by
  have htwins : Twins C (elementIds page) (elementIds page') page page' :=
    ⟨hn, hn', rfl, rfl, ht.butStyle⟩
  unfold SweptAlike sweepUnder sizesFor
  cases sizeWish settings.soloMaxSize with
  | error fault => exact .inl ⟨fault, rfl, rfl⟩
  | ok solo =>
      cases sizeWish settings.inlineMaxSize with
      | error fault => exact .inl ⟨fault, rfl, rfl⟩
      | ok inline =>
          cases rulesFor settings with
          | error fault => exact .inl ⟨fault, rfl, rfl⟩
          | ok rules =>
              obtain ⟨hswept, hstats⟩ : Twins C (elementIds page) (elementIds page')
                    (sweep rules (Style.Sizes.ofPage page solo inline) page).1
                    (sweep rules (Style.Sizes.ofPage page' solo inline) page').1 ∧
                  (sweep rules (Style.Sizes.ofPage page solo inline) page).2 =
                    (sweep rules (Style.Sizes.ofPage page' solo inline) page').2 :=
                htwins.sweep hC
              refine .inr ⟨_, _, (sweep rules (Style.Sizes.ofPage page solo inline) page).2, rfl,
                ?_, hswept.twin⟩
              rw [hstats]
              rfl

/-- A page written in chunks and the page written at once. -/
theorem twin_stream {f : Forest} {t : Nat} {chunks : List String} {texts : List (List Char)}
    {whole : String} (ht : t ∈ elementIds f.page) (hchunks : List.Forall₂ Runs chunks texts)
    (hwhole : Runs whole texts.flatten) :
    Twin (SameHeadBy Eq) (stream f t chunks).page (f.appendMarkup t whole).1.page := by
  obtain ⟨as, has, hsolid, hpage⟩ := page_stream hchunks t f
  obtain ⟨hbs, hsolid'⟩ := fragment_runs hwhole f
  have hbelow := Recut.modifyChildren (R := SameHeadBy Eq) (fun _ _ => ⟨rfl, rfl⟩) has hbs
    (hsolid.trans hsolid'.symm) t f.page
  rw [hpage, show (f.appendMarkup t whole).1.page =
    f.page.modifyChildren t (· ++ (f.fragment whole).1) from rfl]
  cases hnode : f.page with
  | leaf i k s =>
      rw [hnode] at ht
      exact absurd ht List.not_mem_nil
  | element i h cs =>
      rw [hnode] at hbelow
      exact .intro ⟨rfl, rfl⟩ hbelow

/-- **Verdicts, counts and markers depend on the solid characters of texts only.** For two numbered
pages that differ in how runs of text are cut and in blanks, and for a page that is written in
chunks of running text. -/
theorem sweepUnder_recut :
    (∀ {page page' : Node}, page.Numbered → page'.Numbered → Twin SameHead page page' →
      ∃ C : Nat → Nat → Prop, Relator.BiUnique C ∧ Twin (SameHeadBy C) page page' ∧
        (∀ tags stickerClass, SameVerdicts C tags stickerClass page page') ∧
        ∀ settings, SweptAlike C settings page page') ∧
    ∀ {f : Forest} {t : Nat} {chunks : List String} {texts : List (List Char)} {whole : String},
      f.Numbered → t ∈ elementIds f.page → List.Forall₂ Runs chunks texts →
        Runs whole texts.flatten → ∀ settings,
          SweptAlike Eq settings (stream f t chunks).page (f.appendMarkup t whole).1.page := by
  constructor
  · intro page page' hn hn' ht
    obtain ⟨C, hC, htwin⟩ := ht.exists_biUnique hn hn'
    exact ⟨C, hC, htwin, sameVerdicts htwin, sweptAlike hC hn hn' htwin⟩
  · intro f t chunks texts whole hf ht hchunks hwhole settings
    have heq : Relator.BiUnique (Eq : Nat → Nat → Prop) :=
      ⟨fun _ _ _ h h' => h.trans h'.symm, fun _ _ _ h h' => h.symm.trans h'⟩
    exact sweptAlike heq (numbered_stream chunks hf).page
      (effect_append hf t whole).1.numbered.page (twin_stream ht hchunks hwhole) settings

/-- A page with a sticker between line breaks, one behind a comment, and one in no block. -/
def plainPage : Node :=
  let sticker (i : Nat) : Node :=
    .element i ⟨"img", [("class", .words ["sticker-emoji"])]⟩ []
  .element 0 ⟨rootName, []⟩
    [.element 1 ⟨"p", []⟩ [.leaf 2 .plain "so far", .element 3 ⟨"br", []⟩ [], sticker 4,
       .element 5 ⟨"br", []⟩ [], .leaf 6 .comment "note", sticker 7],
     sticker 8]

/-- The same page with its text cut in three, one of them empty, and with blank texts. -/
def cutPage : Node :=
  let sticker (i : Nat) : Node :=
    .element i ⟨"img", [("class", .words ["sticker-emoji"])]⟩ []
  .element 0 ⟨rootName, []⟩
    [.leaf 1 .plain "\n",
     .element 2 ⟨"p", []⟩ [.leaf 3 .plain "so f", .leaf 4 .plain "", .leaf 5 .plain "ar ",
       .element 6 ⟨"br", []⟩ [], .leaf 7 .plain " ", sticker 8, .leaf 9 .plain "\n ",
       .element 10 ⟨"br", []⟩ [], .leaf 11 .comment "note", .leaf 12 .plain " ", sticker 13],
     sticker 14]

theorem twin_cutPage : Twin SameHead plainPage cutPage := by
  have blank {t : Node} {ns ms : List Node} (ht : isText t = true) (hb : isBlankText t = true)
      (h : Recut SameHead ns ms) : Recut SameHead ns (t :: ms) := by
    have htext : ∀ n ∈ [t], isText n = true := fun n hn => List.mem_singleton.mp hn ▸ ht
    have hsolid := solid_isEmpty htext
    rw [List.all_cons, hb] at hsolid
    exact @Recut.texts SameHead [] [t] ns ms (fun n hn => absurd hn List.not_mem_nil) htext
      (List.isEmpty_iff.mp hsolid).symm h
  refine .intro rfl (blank rfl (by decide) (.element rfl ?_ (.element rfl .nil .nil)))
  refine @Recut.texts SameHead [_] [_, _, _] _ _ (by decide) (by decide) (by decide) ?_
  refine .element rfl .nil (blank rfl (by decide) (.element rfl .nil ?_))
  refine blank rfl (by decide) (.element rfl .nil (.note rfl ?_))
  exact blank rfl (by decide) (.element rfl .nil .nil)

theorem sweepUnder_recut_cutPage :
    (plainPage.Numbered ∧ cutPage.Numbered ∧ Twin SameHead plainPage cutPage ∧
      ∃ C : Nat → Nat → Prop, Relator.BiUnique C ∧ Twin (SameHeadBy C) plainPage cutPage ∧
        (∀ tags stickerClass, SameVerdicts C tags stickerClass plainPage cutPage) ∧
        ∀ settings, SweptAlike C settings plainPage cutPage) ∧
    ∀ settings, SweptAlike Eq settings (stream ⟨plainPage, [], 9⟩ 1 [" and", " ", "so on"]).page
      (Forest.appendMarkup ⟨plainPage, [], 9⟩ 1 " and so on").1.page := by
  have hn : plainPage.Numbered := by decide
  have hn' : cutPage.Numbered := by decide
  have hchunks : List.Forall₂ Runs [" and", " ", "so on"]
      [" and".toList, " ".toList, "so on".toList] :=
    .cons (runs_of_plain (by decide)) (.cons (runs_of_plain (by decide))
      (.cons (runs_of_plain (by decide)) .nil))
  have hwhole : Runs " and so on" [" and".toList, " ".toList, "so on".toList].flatten :=
    @runs_of_plain " and so on" (by decide)
  exact ⟨⟨hn, hn', twin_cutPage, sweepUnder_recut.1 hn hn' twin_cutPage⟩,
    sweepUnder_recut.2 ⟨by decide, by decide⟩ (by decide) hchunks hwhole⟩

end StickerPages.Layout
