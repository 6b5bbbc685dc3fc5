import StickerPages.Proofs.Beginnings
import StickerPages.Proofs.Loading
import StickerPages.Proofs.Tables

/-!
# One catalog for pages and panels

A filler and a loader each fetch the catalog at the address in the settings, a filler for the pages
and a loader for the panel that offers stickers. Each has its own way through a body and through
trouble. New ones come to the same table all the same, whatever lies at the address: a catalog, data
that is none, or nothing at all. In trouble a filler has no table, and a loader has the built-in
catalog, which has no pictures (`load_agrees`).

Only how a body begins makes a difference. A filler reads the text, a loader reads the bytes, and so a
catalog behind a byte order mark is for the panel only (`not_load_agrees`).
-/

namespace StickerPages.Content

open Remote

variable {settings : Settings.Loader} {p : Settings.Plugin} {s : Site} {address : Value}
  {gs : List Catalog.Group} {t : Table}

/-- A filler that was just made. -/
def newFiller (settings : Settings.Loader) (p : Settings.Plugin) (s : Site) : Filler :=
  { settings, plugin := some p, site := s }

/-- A loader that was just made. -/
def newLoader (settings : Settings.Loader) (p : Settings.Plugin) (s : Site) : Catalog.Loader :=
  { settings, plugin := some p, site := s }

/-! ## What lies at the address -/

/-- Behind bare bodies lie the same catalogs for both. -/
theorem holdsTable_iff_holds (hbare : ∀ body, (s.get address).2 = .ok body → Bare body) :
    HoldsTable s address t ↔ ∃ gs, Catalog.Holds s address gs ∧ t = Catalog.shortcodeMap gs := by
  constructor
  · rintro ⟨body, v, gs, hget, hv, hgs, ht⟩
    exact ⟨gs, ⟨v, ⟨body, body, hget, recode?_of_bare (hbare body hget), hv⟩, hgs⟩, ht⟩
  · rintro ⟨gs, ⟨v, ⟨body, text, hget, htext, hv⟩, hgs⟩, ht⟩
    obtain rfl := Option.some.inj ((recode?_of_bare (hbare body hget)).symm.trans htext)
    exact ⟨body, v, gs, hget, hv, hgs, ht⟩

/-- Behind any other body lies no table for a filler. -/
theorem not_holdsTable {body : String} (hget : (s.get address).2 = .ok body) (h : ¬Bare body) :
    ¬HoldsTable s address t := by
  rintro ⟨body', v, gs, hget', hv, -, -⟩
  obtain rfl := Except.ok.inj (hget.symm.trans hget')
  rw [unwraps_iff, readBody_of_not_bare h] at hv
  cases hv

/-- The built-in catalog has no pictures. -/
theorem shortcodeMap_builtin : Catalog.shortcodeMap Catalog.builtin = [] := by
  decide +kernel

/-! ## What comes of it -/

section

variable (settings : Settings.Loader) (hmode : p.customMode.truthy = false)
  (hurl : p.configUrl.truthy = true)
include hmode

theorem addressOf_newFiller : addressOf (newFiller settings p s) p = p.configUrl := by
  rw [addressOf, hmode]
  rfl

include hurl

omit hmode in
theorem newFiller_needs : Needs (newFiller settings p s) p := by
  refine .inr ⟨hurl, ?_⟩
  rintro ⟨_, -, hsource, -⟩
  cases hsource

theorem newFiller_holds (h : HoldsTable s p.configUrl t) :
    (newFiller settings p s).load.2 = .ok t := by
  have hkept : Comes (newFiller settings p s) p (.kept (sourceOf p) t) := by
    refine .kept (newFiller_needs settings hurl) ?_
    rw [addressOf_newFiller settings hmode]
    exact h
  exact (hkept.load rfl).2

theorem newFiller_unmet (hsteady : Steady (s.get p.configUrl).2)
    (h : ∀ t, ¬HoldsTable s p.configUrl t) : (newFiller settings p s).load.2 = .ok [] := by
  have hfailed : Comes (newFiller settings p s) p .failed := by
    refine .failed (newFiller_needs settings hurl) ?_ (fun hcustom => ?_) ?_
    · rw [addressOf_newFiller settings hmode]
      exact h
    · rw [hmode] at hcustom
      cases hcustom
    · rw [addressOf_newFiller settings hmode]
      exact hsteady
  exact (hfailed.load rfl).2

/-- A new loader that has settings goes by them and asks one address. -/
theorem newLoader_groups (hown : p.isEmpty = false) (hu : s.Unbroken) :
    (∀ gs, Catalog.Holds s p.configUrl gs →
        ((newLoader settings p s).load .null).store.groups = gs) ∧
      ((∀ gs, ¬Catalog.Holds s p.configUrl gs) →
        ((newLoader settings p s).load .null).store.groups = Catalog.builtin) := by
  have hp : Catalog.GoesBy (newLoader settings p s).sources p (newLoader settings p s).sources :=
    .own rfl hown
  have hpass : Catalog.Passes p (newLoader settings p s).sources (newLoader settings p s).sources :=
    .unasked hmode
  have hputs (gs : List Catalog.Group) (b : Catalog.Sources)
      (hd : Catalog.Decides (newLoader settings p s).sources .null gs b) :
      ((newLoader settings p s).load .null).store.groups = gs :=
    (Catalog.load_puts hu rfl hd).1.groups
  exact ⟨fun gs h => hputs gs _ (.remote hp hpass hurl h),
    fun h => hputs _ _ (.failed hp hpass hurl h)⟩

end

/-- Settings with an address say something. -/
theorem isEmpty_of_configUrl {u : String} (hurl : p.configUrl = .text u) (hne : u ≠ "") :
    p.isEmpty = false := by
  rw [← Bool.not_eq_true]
  intro hempty
  have hfield := List.all_eq_true.mp hempty
    ⟨"sticker_config_url", (·.configUrl), fun v s => { s with configUrl := v }⟩
    (.tail _ (.head _))
  dsimp only at hfield
  rw [hurl] at hfield
  exact hne (beq_iff_eq.mp hfield)

/-- **A new filler and a new loader read the same catalog,** and neither has pictures where there is no
catalog, if the body at the address is bare. Otherwise the filler has no table. -/
theorem load_agrees (settings : Settings.Loader) {u : String} (hu : s.Unbroken)
    (hmode : p.customMode.truthy = false) (hurl : p.configUrl = .text u) (hne : u ≠ "") :
    ((∀ body, (s.get (.text u)).2 = .ok body → Bare body) →
        (newFiller settings p s).load.2 =
          .ok (Catalog.shortcodeMap ((newLoader settings p s).load .null).store.groups)) ∧
      ∀ body, (s.get (.text u)).2 = .ok body → ¬Bare body →
        (newFiller settings p s).load.2 = .ok [] := by
  have htruthy : p.configUrl.truthy = true := by
    rw [hurl]
    simpa [Value.truthy, Scalar.truthy] using hne
  have hsteady := hu.steady p.configUrl
  obtain ⟨hholds, hunmet⟩ :=
    newLoader_groups settings hmode htruthy (isEmpty_of_configUrl hurl hne) hu
  rw [← hurl]
  refine ⟨fun hbare => ?_, fun body hget hbody => ?_⟩
  · -- either both find a catalog there, or neither does
    by_cases hgs : ∃ gs, Catalog.Holds s p.configUrl gs
    · obtain ⟨gs, hgs⟩ := hgs
      rw [hholds gs hgs]
      exact newFiller_holds settings hmode htruthy
        ((holdsTable_iff_holds hbare).mpr ⟨gs, hgs, rfl⟩)
    · rw [hunmet (not_exists.mp hgs), shortcodeMap_builtin]
      refine newFiller_unmet settings hmode htruthy hsteady fun t ht => ?_
      obtain ⟨gs, h, -⟩ := (holdsTable_iff_holds hbare).mp ht
      exact hgs ⟨gs, h⟩
  · exact newFiller_unmet settings hmode htruthy hsteady fun t => not_holdsTable hget hbody

/-- A site where one body lies at an address. -/
def listSite (body : String) : Site where
  base := "http://s"
  routes := [("http://s/list", [.answer 200 body])]

/-- Settings that name this address. -/
def listPlugin : Settings.Plugin := { configUrl := .text "/list" }

theorem unbroken_listSite (body : String) : (listSite body).Unbroken := by
  refine Site.unbroken_of_all fun route hroute => ?_
  obtain rfl := List.mem_singleton.mp hroute
  simp

theorem get_listSite (body : String) : ((listSite body).get (.text "/list")).2 = .ok body := by
  have hresolve : resolve? "http://s" "/list" = some "http://s/list" := by decide +kernel
  simp [Site.get, Site.resolve, listSite, hresolve, Site.ask, Site.next, Site.bodyOf]

/-- A catalog that is wrapped once more. -/
def wrappedList : String := "\"\x7b\\\"far\\\": \x7b\\\"hi\\\": \\\"/far/hi.png\\\"\x7d\x7d\""

theorem load_agrees_wrappedList :
    (listSite wrappedList).Unbroken ∧ Bare wrappedList ∧
      (newFiller {} listPlugin (listSite wrappedList)).load.2 =
        .ok (Catalog.shortcodeMap
          ((newLoader {} listPlugin (listSite wrappedList)).load .null).store.groups) ∧
      Catalog.shortcodeMap
          ((newLoader {} listPlugin (listSite wrappedList)).load .null).store.groups =
        [(":far_hi:", "/far/hi.png")] := by
  have hbare : Bare wrappedList := by decide +kernel
  have hu := unbroken_listSite wrappedList
  refine ⟨hu, hbare, ?_, by decide +kernel⟩
  refine (load_agrees {} hu rfl rfl (by decide)).1 fun body hbody => ?_
  obtain rfl := Except.ok.inj ((get_listSite wrappedList).symm.trans hbody)
  exact hbare

/-- A catalog with a byte order mark in front. -/
def markedList : String := "\ufeff\x7b\"far\": \x7b\"hi\": \"/far/hi.png\"\x7d\x7d"

/-- They do not read the same catalog from every body: a filler stops at a byte order mark. -/
theorem not_load_agrees :
    ¬∀ (settings : Settings.Loader) (p : Settings.Plugin) (s : Site) (u : String), s.Unbroken →
      p.customMode.truthy = false → p.configUrl = .text u → u ≠ "" →
        (newFiller settings p s).load.2 =
          .ok (Catalog.shortcodeMap ((newLoader settings p s).load .null).store.groups) := by
  intro h
  -- the filler has no table, and the loader has a picture
  have hagrees := h {} listPlugin (listSite markedList) "/list" (unbroken_listSite _) rfl rfl
    (by decide)
  have hnone : (newFiller {} listPlugin (listSite markedList)).load.2 = .ok [] :=
    newFiller_unmet {} rfl rfl ((unbroken_listSite _).steady _) fun t =>
      not_holdsTable (get_listSite markedList) (by decide +kernel)
  have hsome : Catalog.shortcodeMap
      ((newLoader {} listPlugin (listSite markedList)).load .null).store.groups =
        [(":far_hi:", "/far/hi.png")] := by decide +kernel
  rw [hnone, hsome] at hagrees
  cases hagrees

end StickerPages.Content
