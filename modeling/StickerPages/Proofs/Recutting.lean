import Mathlib.Data.List.Forall2
import StickerPages.Markup.Frame
import StickerPages.Proofs.Repeating

/-!
# Texts count by what is solid in them

Whoever writes a page cuts its texts as it suits: one text may come as several, with blank ones in
between. Layout asks of texts only whether they are blank, so it should not matter. `Recut` is the
relation of two pages that differ in nothing else: wherever the one has a run of texts, the other
has a run with the same solid characters, and all other nodes answer to each other one by one.

The proof keeps the two pages side by side. Elements answer to elements, in document order, and have
the same answers to every question that layout asks (`Recut.places`). A change made to two elements
that answer to each other leaves such pages such pages (`Twins.modify`), so a sweep does the same to
both, step by step (`Twins.sweep`).

What elements have to agree in is a parameter. Styles need not agree for a sweep to go the same way;
after it they may not, since the sizes are read from style sheets, whose texts may be cut too.
-/

namespace StickerPages.Layout

open Markup Style

/-- What two elements with these numbers have to agree in, to answer to each other. -/
abbrev Kinship := Nat → Element → Nat → Element → Prop

/-! ## Runs of text -/

/-- A leaf that is part of the reading matter. -/
def isText : Node → Bool
  | .leaf _ k _ => k.isReading
  | .element .. => false

/-- The characters of a leaf. -/
def characters : Node → List Char
  | .leaf _ _ s => s.toList
  | .element .. => []

/-- The characters of several texts, blanks left out. -/
def solid (ts : List Node) : List Char :=
  (ts.flatMap characters).filter fun c => !Text.isBlank c

/-- The two lists of trees differ only in how runs of text are cut, and in blanks. -/
inductive Recut (R : Kinship) : List Node → List Node → Prop
  | nil : Recut R [] []
  /-- Runs of text with the same solid characters, either of which may be empty. -/
  | texts {ts us ns ms : List Node} (one : ∀ t ∈ ts, isText t = true)
      (other : ∀ u ∈ us, isText u = true) (same : solid ts = solid us) (rest : Recut R ns ms) :
      Recut R (ts ++ ns) (us ++ ms)
  /-- A comment, a declaration or the like is no text and stays what it is. -/
  | note {i j : Nat} {k : TextKind} {s : String} {ns ms : List Node} (kind : k.isReading = false)
      (rest : Recut R ns ms) : Recut R (.leaf i k s :: ns) (.leaf j k s :: ms)
  | element {i j : Nat} {h e : Element} {cs ds ns ms : List Node} (kin : R i h j e)
      (below : Recut R cs ds) (rest : Recut R ns ms) :
      Recut R (.element i h cs :: ns) (.element j e ds :: ms)

/-- Two elements that differ only in how runs of text below them are cut, and in blanks. -/
inductive Twin (R : Kinship) : Node → Node → Prop
  | intro {i j : Nat} {h e : Element} {cs ds : List Node} (kin : R i h j e)
      (below : Recut R cs ds) : Twin R (.element i h cs) (.element j e ds)

/-- Nothing solid is left of texts exactly if they are all blank. -/
theorem solid_isEmpty {ts : List Node} (h : ∀ t ∈ ts, isText t = true) :
    (solid ts).isEmpty = ts.all isBlankText := by
  have hblank {t : Node} (ht : isText t = true) :
      isBlankText t = true ↔ ∀ c ∈ characters t, Text.isBlank c = true := by
    cases t with
    | element i e cs => cases ht
    | leaf i k s =>
        have hk : k.isReading = true := ht
        rw [isBlankText, hk, Bool.true_and, String.isBlankText, Text.allBlank, List.all_eq_true,
          characters]
  rw [Bool.eq_iff_iff, List.isEmpty_iff, solid, List.filter_eq_nil_iff, List.all_eq_true]
  constructor
  · intro hall t ht
    refine (hblank (h t ht)).mpr fun c hc => ?_
    simpa using hall c (List.mem_flatMap.mpr ⟨t, ht, hc⟩)
  · intro hall c hc
    obtain ⟨t, ht, hct⟩ := List.mem_flatMap.mp hc
    simpa using (hblank (h t ht)).mp (hall t ht) c hct

variable {R S : Kinship}

theorem Recut.imp (himp : ∀ i h j e, R i h j e → S i h j e) {ns ms : List Node}
    (hr : Recut R ns ms) : Recut S ns ms := by
  induction hr with
  | nil => exact .nil
  | texts one other same _ ih => exact .texts one other same ih
  | note kind _ ih => exact .note kind ih
  | element kin _ _ ihbelow ih => exact .element (himp _ _ _ _ kin) ihbelow ih

theorem Recut.append {ns ms ns' ms' : List Node} (hr : Recut R ns ms) (hr' : Recut R ns' ms') :
    Recut R (ns ++ ns') (ms ++ ms') := by
  induction hr with
  | nil => exact hr'
  | texts one other same _ ih =>
      rw [List.append_assoc, List.append_assoc]
      exact .texts one other same ih
  | note kind _ ih => exact .note kind ih
  | element kin below _ _ ih => exact .element kin below ih

theorem Twin.imp (himp : ∀ i h j e, R i h j e → S i h j e) {n m : Node} (ht : Twin R n m) :
    Twin S n m := by
  cases ht with
  | intro kin below => exact .intro (himp _ _ _ _ kin) (below.imp himp)

/-! ## What layout reads of an element -/

/-- Elements of one kin have one name, and agree in whether they are stickers. -/
structure Legible (R : Kinship) (stickerClass : String) : Prop where
  name : ∀ i h j e, R i h j e → h.name = e.name
  sticker : ∀ i h j e, R i h j e →
    h.classes.contains stickerClass = e.classes.contains stickerClass
  found : ∀ i h j e, R i h j e → (Findable stickerClass h ↔ Findable stickerClass e)

section

variable {stickerClass : String} {n m : Node}

theorem Twin.isNamed (hl : Legible R stickerClass) (ht : Twin R n m) (name : String) :
    n.isNamed name = m.isNamed name := by
  cases ht with
  | intro kin _ => rw [Node.isNamed, Node.isNamed, hl.name _ _ _ _ kin]

theorem Twin.isBlock (hl : Legible R stickerClass) (ht : Twin R n m) (tags : List String) :
    isBlock tags n = isBlock tags m := by
  cases ht with
  | intro kin _ => rw [Layout.isBlock, Layout.isBlock, hl.name _ _ _ _ kin]

theorem Twin.isFound (hl : Legible R stickerClass) (ht : Twin R n m) :
    isFound stickerClass n = isFound stickerClass m := by
  cases ht with
  | intro kin _ => exact Bool.eq_iff_iff.mpr (hl.found _ _ _ _ kin)

theorem Twin.fitsSolo (hl : Legible R stickerClass) (ht : Twin R n m) :
    fitsSolo stickerClass n = fitsSolo stickerClass m := by
  have hbreak := ht.isNamed hl "br"
  cases ht with
  | intro kin _ =>
      simp only [Layout.fitsSolo, isSticker, isLineBreak]
      rw [hbreak, hl.name _ _ _ _ kin, hl.sticker _ _ _ _ kin]

end

/-! ## Children -/

/-- The first of the nodes that is no blank text is a line break. -/
def opensWithBreak (ns : List Node) : Bool :=
  (ns.dropWhile isBlankText).head?.any isLineBreak

theorem opensWithBreak_cons {n : Node} (hn : isBlankText n = false) (ns : List Node) :
    opensWithBreak (n :: ns) = isLineBreak n := by
  rw [opensWithBreak, List.dropWhile_cons_of_neg (by rw [hn]; exact Bool.false_ne_true)]
  rfl

/-- Texts are passed over if they are blank, and stand in the way if not. -/
theorem opensWithBreak_texts {ts : List Node} (h : ∀ t ∈ ts, isText t = true) (ns : List Node) :
    opensWithBreak (ts ++ ns) = (ts.all isBlankText && opensWithBreak ns) := by
  induction ts with
  | nil => rfl
  | cons t r ih =>
      have hr := ih fun u hu => h u (List.mem_cons_of_mem _ hu)
      cases hblank : isBlankText t with
      | true =>
          rw [List.all_cons, hblank, Bool.true_and, ← hr, opensWithBreak, opensWithBreak,
            List.cons_append, List.dropWhile_cons_of_pos hblank]
      | false =>
          have hno : isLineBreak t = false := by
            cases t with
            | leaf i k s => rfl
            | element i e cs => cases h _ List.mem_cons_self
          rw [List.cons_append, opensWithBreak_cons hblank, hno, List.all_cons, hblank]
          rfl

theorem betweenBreaks_eq (p : Place) :
    betweenBreaks p = (opensWithBreak p.before && opensWithBreak p.after) := rfl

section

variable {stickerClass : String} {ns ms : List Node}

theorem Recut.opensWithBreak (hl : Legible R stickerClass) (hr : Recut R ns ms) :
    opensWithBreak ns = opensWithBreak ms := by
  induction hr with
  | nil => rfl
  | texts one other same _ ih =>
      rw [opensWithBreak_texts one, opensWithBreak_texts other, ih, ← solid_isEmpty one,
        ← solid_isEmpty other, same]
  | note kind _ _ =>
      rw [opensWithBreak_cons (by simp [isBlankText, kind]),
        opensWithBreak_cons (by simp [isBlankText, kind])]
      rfl
  | element kin below _ _ _ =>
      rw [opensWithBreak_cons rfl, opensWithBreak_cons rfl]
      exact (Twin.intro kin below).isNamed hl "br"

/-- Comments fit into a solo block whatever they say, and texts if nothing in them is solid. -/
theorem Recut.all_fitsSolo (hl : Legible R stickerClass) (hr : Recut R ns ms) :
    ns.all (fitsSolo stickerClass) = ms.all (fitsSolo stickerClass) := by
  have htexts {ts : List Node} (h : ∀ t ∈ ts, isText t = true) :
      ts.all (fitsSolo stickerClass) = ts.all isBlankText := by
    rw [Bool.eq_iff_iff, List.all_eq_true, List.all_eq_true]
    refine forall₂_congr fun t ht => ?_
    cases t with
    | element i e cs => cases h _ ht
    | leaf i k s =>
        have hk : k.isReading = true := h _ ht
        simp [fitsSolo, isBlankText, hk]
  induction hr with
  | nil => rfl
  | texts one other same _ ih =>
      rw [List.all_append, List.all_append, ih, htexts one, htexts other, ← solid_isEmpty one,
        ← solid_isEmpty other, same]
  | note _ _ ih =>
      rw [List.all_cons, List.all_cons, ih]
      rfl
  | element kin below _ _ ih =>
      rw [List.all_cons, List.all_cons, ih, (Twin.intro kin below).fitsSolo hl]

theorem Twin.onlyStickers (hl : Legible R stickerClass) {n m : Node} (ht : Twin R n m) :
    onlyStickers stickerClass n = onlyStickers stickerClass m := by
  cases ht with
  | intro _ below => exact below.all_fitsSolo hl

end

/-! ## Places -/

/-- The place of an element of the other page answers to that of an element of the one. -/
structure Answers (R : Kinship) (p q : Place) : Prop where
  node : Twin R p.node q.node
  breaks : betweenBreaks p = betweenBreaks q
  above : List.Forall₂ (Twin R) (p.above.map (·.node)) (q.above.map (·.node))

/-- Texts have no place for an element; they only stand in front of what follows. -/
theorem elements_texts {ts : List Node} (h : ∀ t ∈ ts, isText t = true) (above : List Markup.Level)
    (ns : List Node) : ∀ before : List Node,
      Place.elements (Node.placesAmong above before (ts ++ ns)) =
        Place.elements (Node.placesAmong above (ts.reverse ++ before) ns) := by
  induction ts with
  | nil => exact fun _ => rfl
  | cons t r ih =>
      intro before
      cases t with
      | element i e cs => cases h _ List.mem_cons_self
      | leaf i k s =>
          have hr := ih (fun u hu => h u (List.mem_cons_of_mem _ hu)) (.leaf i k s :: before)
          rw [List.reverse_cons, List.append_assoc]
          exact hr

section

variable {stickerClass : String}

/-- **The elements of the two pages answer to each other, in document order.** -/
theorem Recut.places (hl : Legible R stickerClass) {ns ms : List Node} (hr : Recut R ns ms) :
    ∀ {above above' : List Markup.Level} {before before' : List Node},
      List.Forall₂ (Twin R) (above.map (·.node)) (above'.map (·.node)) →
      Layout.opensWithBreak before = Layout.opensWithBreak before' →
        List.Forall₂ (Answers R) (Place.elements (Node.placesAmong above before ns))
          (Place.elements (Node.placesAmong above' before' ms)) := by
  induction hr with
  | nil => exact fun _ _ => .nil
  | texts one other same _ ih =>
      intro above above' before before' habove hbefore
      have hreverse {ts : List Node} (h : ∀ t ∈ ts, isText t = true) (ns : List Node) :
          Layout.opensWithBreak (ts.reverse ++ ns) =
            (ts.all isBlankText && Layout.opensWithBreak ns) := by
        rw [opensWithBreak_texts fun t ht => h t (List.mem_reverse.mp ht), List.all_reverse]
      -- the runs join what stands in front, where they count only if something in them is solid
      rw [elements_texts one, elements_texts other]
      refine ih habove ?_
      rw [hreverse one, hreverse other, hbefore, ← solid_isEmpty one, ← solid_isEmpty other, same]
  | note kind _ ih =>
      intro above above' before before' habove hbefore
      refine ih habove ?_
      rw [opensWithBreak_cons (by simp [isBlankText, kind]),
        opensWithBreak_cons (by simp [isBlankText, kind])]
      rfl
  | @element i j h e cs ds ns ms kin below rest ihbelow ih =>
      intro above above' before before' habove hbefore
      have htwin : Twin R (.element i h cs) (.element j e ds) := .intro kin below
      have hself : Answers R ⟨⟨.element i h cs, before, ns⟩, above⟩
          ⟨⟨.element j e ds, before', ms⟩, above'⟩ := by
        refine ⟨htwin, ?_, habove⟩
        rw [betweenBreaks_eq, betweenBreaks_eq, hbefore, rest.opensWithBreak hl]
      have hfront : Layout.opensWithBreak (.element i h cs :: before) =
          Layout.opensWithBreak (.element j e ds :: before') := by
        rw [opensWithBreak_cons rfl, opensWithBreak_cons rfl]
        exact htwin.isNamed hl "br"
      have hbehind := ih habove hfront
      -- below the two elements, nothing stands in front yet on either page
      have hinside := @ihbelow (⟨.element i h cs, before, ns⟩ :: above)
        (⟨.element j e ds, before', ms⟩ :: above') [] [] (.cons htwin habove) rfl
      rw [Node.placesAmong, Node.placesAmong, Place.elements, Place.elements,
        List.filter_cons_of_pos (by rfl), List.filter_cons_of_pos (by rfl), List.filter_append,
        List.filter_append]
      exact .cons hself (List.rel_append hinside hbehind)

variable {p q : Place}

theorem Answers.inside (hl : Legible R stickerClass) (ha : Answers R p q) :
    List.Forall₂ (Answers R) (Place.elements p.inside) (Place.elements q.inside) := by
  obtain ⟨⟨n, before, after⟩, above⟩ := p
  obtain ⟨⟨m, before', after'⟩, above'⟩ := q
  have hnode : Twin R n m := ha.node
  cases hnode with
  | intro kin below => exact below.places hl (.cons (.intro kin below) ha.above) rfl

theorem Answers.all (hl : Legible R stickerClass) (ha : Answers R p q) :
    List.Forall₂ (Answers R) (Place.elements p.all) (Place.elements q.all) := by
  have hself {p : Place} {n : Node} (ht : Twin R p.node n ∨ Twin R n p.node) :
      Place.elements p.all = p :: Place.elements p.inside := by
    refine List.filter_cons_of_pos ?_
    rw [Place.element?]
    rcases ht with ht | ht
    · generalize p.node = m at ht
      cases ht
      rfl
    · generalize p.node = m at ht
      cases ht
      rfl
  rw [hself (.inl ha.node), hself (.inr ha.node)]
  exact .cons ha (ha.inside hl)

theorem Twin.top {page page' : Node} (ht : Twin R page page') :
    Answers R (Place.top page) (Place.top page') :=
  ⟨ht, rfl, .nil⟩

/-! ## Verdicts -/

/-- In lists that answer to each other, the first of a kind answers to the first of a kind. -/
theorem rel_find? {α β : Type} {P : α → β → Prop} {ask : α → Bool} {ask' : β → Bool}
    (hask : ∀ a b, P a b → ask a = ask' b) {as : List α} {bs : List β}
    (h : List.Forall₂ P as bs) : Option.Rel P (as.find? ask) (bs.find? ask') := by
  induction h with
  | nil => exact .none
  | @cons a b as bs hab _ ih =>
      rw [List.find?_cons, List.find?_cons, hask a b hab]
      cases ask' b with
      | true => exact .some hab
      | false => exact ih

/-- Questions that only elements answer with yes may be asked among elements. -/
theorem filter_elements {ask : Place → Bool} (hask : ∀ r, ask r = true → r.element?.isSome = true)
    (ps : List Place) : (Place.elements ps).filter ask = ps.filter ask := by
  rw [Place.elements, List.filter_filter]
  refine List.filter_congr fun r _ => ?_
  cases h : ask r with
  | false => rfl
  | true => rw [hask r h, Bool.and_self]

theorem answers_filter {ask : Place → Bool} (hask : ∀ r, ask r = true → r.element?.isSome = true)
    (hsame : ∀ r r', Answers R r r' → ask r = ask r') {ps qs : List Place}
    (h : List.Forall₂ (Answers R) (Place.elements ps) (Place.elements qs)) :
    List.Forall₂ (Answers R) (ps.filter ask) (qs.filter ask) := by
  rw [← filter_elements hask ps, ← filter_elements hask qs]
  refine List.rel_filter (fun r r' hr => ?_) h
  show ask r = true ↔ ask r' = true
  rw [hsame r r' hr]

theorem element?_of_isBlock {tags : List String} {r : Place} (h : isBlock tags r.node = true) :
    r.element?.isSome = true := by
  obtain ⟨e, he⟩ := exists_head_of_isBlock h
  rw [Place.element?, he]
  rfl

theorem element?_of_isFound {r : Place} (h : isFound stickerClass r.node = true) :
    r.element?.isSome = true := by
  obtain ⟨e, he⟩ := @exists_head_of_isFound { stickerClass } _ h
  rw [Place.element?, he]
  rfl

theorem Answers.blocks (hl : Legible R stickerClass) (ha : Answers R p q) (tags : List String) :
    List.Forall₂ (Answers R) (blocks tags p) (blocks tags q) :=
  answers_filter (fun _ => element?_of_isBlock) (fun _ _ hr => hr.node.isBlock hl tags) (ha.all hl)

theorem Answers.stickers (hl : Legible R stickerClass) (ha : Answers R p q) :
    List.Forall₂ (Answers R) (stickers stickerClass p) (stickers stickerClass q) :=
  answers_filter (fun _ => element?_of_isFound) (fun _ _ hr => hr.node.isFound hl) (ha.inside hl)

/-- The innermost block around the one answers to the innermost block around the other. -/
theorem Answers.innermost (hl : Legible R stickerClass) (ha : Answers R p q)
    (tags : List String) :
    Option.Rel (Twin R) ((p.above.map (·.node)).find? (isBlock tags))
      ((q.above.map (·.node)).find? (isBlock tags)) :=
  rel_find? (fun _ _ ht => ht.isBlock hl tags) ha.above

theorem isNone_enclosing? (tags : List String) (p : Place) :
    (enclosing? tags p).isNone = ((p.above.map (·.node)).find? (isBlock tags)).isNone := by
  rw [enclosing?, List.find?_map]
  simp only [Option.isNone_map]
  rfl

theorem Answers.standalone (hl : Legible R stickerClass) (ha : Answers R p q)
    (tags : List String) :
    List.Forall₂ (Answers R) (standalone stickerClass tags p) (standalone stickerClass tags q) := by
  refine List.rel_filter (fun r r' hr => ?_) (ha.stickers hl)
  show (enclosing? tags r).isNone = true ↔ (enclosing? tags r').isNone = true
  rw [isNone_enclosing?, isNone_enclosing?]
  -- both have a block around them or neither has
  have h := hr.innermost hl tags
  revert h
  generalize (r.above.map (·.node)).find? (isBlock tags) = b
  generalize (r'.above.map (·.node)).find? (isBlock tags) = b'
  rintro (_ | _) <;> rfl

/-- **A block and its twin are judged alike**, whatever stickers are looked at. -/
theorem Twin.judge (hl : Legible R stickerClass) {n m : Node} (ht : Twin R n m)
    {ps qs : List Place} (h : List.Forall₂ (Answers R) ps qs) :
    judge stickerClass n ps = judge stickerClass m qs := by
  have hmap {f : Place → Bool} (hf : ∀ p q, Answers R p q → f p = f q) : ps.map f = qs.map f := by
    rw [← List.forall₂_eq_eq_eq]
    exact List.rel_map (fun p q hpq => hf p q hpq) h
  rw [Layout.judge, Layout.judge, ht.onlyStickers hl, hmap fun _ _ _ => rfl,
    hmap fun _ _ hr => hr.breaks]

end

end StickerPages.Layout
