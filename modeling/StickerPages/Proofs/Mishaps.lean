import StickerPages.Proofs.Agreement

/-!
# Pages that cannot be filled

Whoever has a page filled wants a page back, the page itself if need be. Trouble with the catalog is
dealt with: a load answers with a table whatever lies at the address, unless there are no settings at
all (`load_error_iff`), and then the page comes back as it was. So it does if the table is empty.

Behind the load nothing is dealt with. A style in the settings can be anything, and a style that is no
text is found out when the first sticker of the page is written (`Spoils`). Then no page comes back.
That is the only way to lose a page (`handle_answers`).
-/

namespace StickerPages.Content

open Remote

variable {f : Filler} {p : Settings.Plugin} {table : Table} {style : Value} {page : String}

/-! ## Styles -/

/-- A known code of the page asks for the style, and the style counts as present and is no text. -/
structure Spoils (table : Table) (style : Value) (page : String) : Prop where
  present : style.truthy = true
  noText : style.text? = none
  called : callsFor table page.toList = true

theorem spoils_iff : Spoils table style page ↔
    style.truthy = true ∧ style.text? = none ∧ callsFor table page.toList = true :=
  ⟨fun h => ⟨h.present, h.noText, h.called⟩, fun ⟨h1, h2, h3⟩ => ⟨h1, h2, h3⟩⟩

instance (table : Table) (style : Value) (page : String) : Decidable (Spoils table style page) :=
  decidable_of_iff _ spoils_iff.symm

/-- The text of a style; what counts as absent, or is no text, adds nothing. -/
def styleText (style : Value) : String := ((style.orElse (.text "")).text?).getD ""

theorem renderStyled?_eq (table : Table) (style : Value) (page : String) :
    renderStyled? table style page =
      if Spoils table style page then none else some (render table (styleText style) page) := by
  unfold renderStyled? styleText
  cases htruthy : style.truthy with
  | false =>
      have hfine : ¬ Spoils table style page :=
        fun h => Bool.false_ne_true (htruthy.symm.trans h.present)
      have hnone : style.orElse (.text "") = .text "" := by simp [Value.orElse, htruthy]
      rw [if_neg hfine, hnone]
      rfl
  | true =>
      have hself : style.orElse (.text "") = style := by simp [Value.orElse, htruthy]
      rw [hself]
      cases htext : style.text? with
      | some s =>
          have hfine : ¬ Spoils table style page :=
            fun h => Option.some_ne_none s (htext.symm.trans h.noText)
          rw [if_neg hfine]
          rfl
      | none =>
          have hiff : Spoils table style page ↔ callsFor table page.toList = true := by
            simp [spoils_iff, htruthy, htext]
          simp only [hiff]
          rfl

/-- An empty table knows no code. -/
theorem callsFor_nil (cs : List Char) : callsFor [] cs = false := by
  rw [callsFor, List.any_eq_false]
  rintro (c | code) - <;> simp

/-- In an empty page there is nothing to fill. -/
theorem render_empty (table : Table) (style : String) : render table style "" = "" := by
  have hnone : fill table style [] = [] := by simp [fill, pieces]
  have htext : ("" : String).toList = [] := rfl
  rw [render, htext, hnone, unescape]

/-! ## Loads -/

/-- With settings a load answers, whatever lies at the address. -/
theorem exists_load_ok (hu : f.site.Unbroken) (hp : f.plugin = some p) :
    ∃ table, f.load.2 = .ok table := by
  obtain ⟨o, ho⟩ := exists_comes f p
  have hanswer := (ho.load hp).2
  cases ho with
  | brokenOff _ hbroken => exact absurd hbroken (hu.steady _)
  | _ => exact ⟨_, hanswer⟩

theorem load_of_none (hp : f.plugin = none) : f.load = (f, .error .noSettings) := by
  rw [Filler.load, hp]

/-- **A load fails only if there are no settings.** -/
theorem load_error_iff (hu : f.site.Unbroken) : (∃ t, f.load.2 = .error t) ↔ f.plugin = none := by
  constructor
  · rintro ⟨t, ht⟩
    cases hp : f.plugin with
    | none => rfl
    | some p =>
        obtain ⟨table, hok⟩ := exists_load_ok hu hp
        cases hok.symm.trans ht
  · intro hp
    exact ⟨.noSettings, by rw [load_of_none hp]⟩

theorem plugin_load (hp : f.plugin = some p) : f.load.1.plugin = some p := by
  obtain ⟨o, ho⟩ := exists_comes f p
  exact (ho.load hp).1.plugin.trans hp

/-! ## Pages -/

theorem handle_of_none (hp : f.plugin = none) (content : Option String) :
    (f.handle content).2 = some content := by
  unfold Filler.handle
  rw [load_of_none hp]

/-- A page with a table: an empty one leaves it, any other fills it if the style can be used. -/
theorem fillFrom?_eq (hp : f.plugin = some p) (table : Table) (page : String) :
    f.fillFrom? table page =
      if table = [] then some page
      else if Spoils table p.stickerStyle page then none
      else some (render table (styleText p.stickerStyle) page) := by
  rw [Filler.fillFrom?, hp]
  dsimp only
  by_cases htable : table = []
  · rw [if_pos htable, if_pos (by simp [htable])]
  · rw [if_neg htable]
    by_cases hempty : page = ""
    · subst hempty
      have hfine : ¬ Spoils table p.stickerStyle "" := by
        rintro ⟨-, -, hcalled⟩
        simp [callsFor, pieces] at hcalled
      rw [if_pos (by simp), if_neg hfine, render_empty]
    · rw [if_neg (by simp [htable, hempty]), renderStyled?_eq]

theorem handle_of_ok (h : f.load.2 = .ok table) (content : Option String) :
    (f.handle content).2 = match content with
      | none => some none
      | some page => (f.load.1.fillFrom? table page).map some := by
  rcases hload : f.load with ⟨f', r⟩
  obtain rfl : r = .ok table := by rwa [hload] at h
  unfold Filler.handle
  cases content <;> simp only [hload]

/-- **What comes back for a page.** Nothing comes back just if the style spoils the page. The page
itself comes back if there are no settings, the only way for a load to fail, and if the table is
empty. Otherwise it comes back filled. -/
theorem handle_answers (f : Filler) (hu : f.site.Unbroken) (content : Option String) :
    ((f.handle content).2 = none ↔ ∃ p table page, f.plugin = some p ∧ f.load.2 = .ok table ∧
        content = some page ∧ Spoils table p.stickerStyle page) ∧
      ((∃ t, f.load.2 = .error t) ↔ f.plugin = none) ∧
      (∀ t, f.load.2 = .error t → (f.handle content).2 = some content) ∧
      (f.load.2 = .ok [] → (f.handle content).2 = some content) ∧
      ∀ p table page, f.plugin = some p → f.load.2 = .ok table → table ≠ [] →
        content = some page → ¬ Spoils table p.stickerStyle page →
        (f.handle content).2 = some (some (render table (styleText p.stickerStyle) page)) := by
  -- with settings there is a table, and the page is filled from it
  have hfilled {p : Settings.Plugin} {table : Table} (hp : f.plugin = some p)
      (hload : f.load.2 = .ok table) (page : String) : (f.handle (some page)).2 =
        if table = [] then some (some page)
        else if Spoils table p.stickerStyle page then none
        else some (some (render table (styleText p.stickerStyle) page)) := by
    rw [handle_of_ok hload]
    dsimp only
    rw [fillFrom?_eq (plugin_load hp)]
    split
    · rfl
    · split <;> rfl
  have hsettings {table : Table} (hload : f.load.2 = .ok table) : ∃ p, f.plugin = some p := by
    cases hp : f.plugin with
    | none => rw [load_of_none hp] at hload; cases hload
    | some p => exact ⟨p, rfl⟩
  refine ⟨⟨fun hnone => ?_, ?_⟩, load_error_iff hu, fun t ht => ?_, fun hempty => ?_, ?_⟩
  · cases hp : f.plugin with
    | none => rw [handle_of_none hp] at hnone; cases hnone
    | some p =>
        obtain ⟨table, hload⟩ := exists_load_ok hu hp
        cases content with
        | none => rw [handle_of_ok hload] at hnone; cases hnone
        | some page =>
            rw [hfilled hp hload] at hnone
            refine ⟨p, table, page, rfl, hload, rfl, ?_⟩
            by_contra hfine
            rw [if_neg hfine] at hnone
            split at hnone <;> cases hnone
  · rintro ⟨p, table, page, hp, hload, rfl, hspoils⟩
    have hsome : table ≠ [] := by
      rintro rfl
      exact Bool.false_ne_true ((callsFor_nil _).symm.trans hspoils.called)
    rw [hfilled hp hload, if_neg hsome, if_pos hspoils]
  · exact handle_of_none ((load_error_iff hu).mp ⟨t, ht⟩) content
  · obtain ⟨p, hp⟩ := hsettings hempty
    cases content with
    | none => rw [handle_of_ok hempty]
    | some page => rw [hfilled hp hempty, if_pos rfl]
  · rintro p table page hp hload hsome rfl hfine
    rw [hfilled hp hload, if_neg hsome, if_neg hfine]

/-- A catalog of one sticker. -/
def singleList : String := "\x7b\"far\": \x7b\"hi\": \"/far/hi.png\"\x7d\x7d"

/-- A filler for that catalog, with a number in the place of the style. -/
def numberedStyle : Filler :=
  newFiller {} { listPlugin with stickerStyle := .int 5 } (listSite singleList)

/-- A page that calls for the sticker is lost, and a page that does not is filled. -/
theorem handle_answers_numberedStyle :
    numberedStyle.site.Unbroken ∧
      (numberedStyle.handle (some "say :far_hi:")).2 = none ∧
      (numberedStyle.handle (some "say :far_ho:")).2 = some (some "say :far_ho:") := by
  have hu : numberedStyle.site.Unbroken := unbroken_listSite singleList
  obtain ⟨table, hload⟩ := exists_load_ok hu rfl
  have htable : numberedStyle.load.2.toOption = some [(":far_hi:", "/far/hi.png")] := by
    decide +kernel
  rw [hload] at htable
  obtain rfl : table = [(":far_hi:", "/far/hi.png")] := Option.some.inj htable
  refine ⟨hu, (handle_answers numberedStyle hu (some "say :far_hi:")).1.mpr
    ⟨_, _, _, rfl, hload, rfl, by decide +kernel⟩, ?_⟩
  have hfilled := (handle_answers numberedStyle hu (some "say :far_ho:")).2.2.2.2 _ _ _ rfl hload
    (by decide) rfl (by decide +kernel)
  exact hfilled.trans (by decide +kernel)

/-- **A page does not always come back:** a style that is a number loses every page with a sticker. -/
theorem handle_loses :
    ¬ ∀ (f : Filler), f.site.Unbroken → ∀ content, ∃ answer, (f.handle content).2 = some answer := by
  intro h
  obtain ⟨answer, hanswer⟩ := h numberedStyle (unbroken_listSite singleList) (some "say :far_hi:")
  have hlost : (numberedStyle.handle (some "say :far_hi:")).2 = none := by decide +kernel
  exact Option.some_ne_none answer (hanswer.symm.trans hlost)

end StickerPages.Content
