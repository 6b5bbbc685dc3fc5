import StickerPages.Catalog.Loader
import StickerPages.Proofs.Audiences
import StickerPages.Proofs.Requests

/-!
# Loading a catalog

Which catalog a load puts in use is said by a relation between what the load starts from, the address
it was asked for, the groups, and what is left behind (`Decides`). It is put together from what lies
at addresses (`Holds`, `HoldsCustom`, `Sends`) and knows nothing of trouble or of reports: where the
loader deals with trouble, the relation says that nothing of the kind lies there.

There always is a decision (`exists_decides`), and the loader follows it (`Decides.choose`). What a
load does besides is the same for every decision: it puts the groups in use once, while the marks say
that loading goes on (`Puts`). So whatever was done before, each order does what it should
(`obeyAll_obeyed`).
-/

namespace StickerPages.Catalog

open Remote

/-- What a loader has to find catalogs with. -/
structure Sources where
  settings : Settings.Loader
  plugin : Option Settings.Plugin
  site : Site

/-- The sources of a loader. -/
def Loader.sources (l : Loader) : Sources := ⟨l.settings, l.plugin, l.site⟩

/-- After a request. -/
def Sources.asked (b : Sources) (address : Value) : Sources :=
  { b with site := (b.site.get address).1 }

variable {b b' : Sources} {s : Site} {address : Value} {gs : List Group} {p q : Settings.Plugin}
  {l l' : Loader}

/-! ## What lies where -/

/-- This catalog lies at an address. -/
def Holds (s : Site) (address : Value) (gs : List Group) : Prop :=
  ∃ v, s.Offers address v ∧ ofValue v = .ok gs

/-- This catalog lies at the custom address, and not as data that is as good as none. -/
def HoldsCustom (b : Sources) (gs : List Group) : Prop :=
  ∃ v, b.site.Offers b.settings.customStickersPath v ∧ v.truthy = true ∧ ofValue v = .ok gs

/-- The server sends these plugin settings: they are a JSON text inside its data. -/
def Sends (b : Sources) (p : Settings.Plugin) : Prop :=
  ∃ es data basic v, b.site.Offers b.settings.configMapPath (.map es) ∧
    Entries.at? es "data" = some (.map data) ∧ Entries.at? data "basic" = some (.text basic) ∧
    Json.read? basic = some v ∧ p = .ofOutside v

/-! ## The decision -/

/-- Asking the server for plugin settings brings these, and leaves this. -/
inductive Learns (b : Sources) : Settings.Plugin → Sources → Prop
  | sent {p : Settings.Plugin} (hsent : Sends b p) :
      Learns b p { b.asked b.settings.configMapPath with plugin := some p }
  | unsent (hnone : ∀ p, ¬Sends b p) : Learns b {} (b.asked b.settings.configMapPath)

/-- The plugin settings that a load goes by: its own, unless they say nothing. -/
inductive GoesBy (b : Sources) : Settings.Plugin → Sources → Prop
  | own {p : Settings.Plugin} (hp : b.plugin = some p) (hown : p.isEmpty = false) : GoesBy b p b
  | learned {p q : Settings.Plugin} {b' : Sources} (hp : b.plugin = some p)
      (hempty : p.isEmpty = true) (hlearns : Learns b q b') : GoesBy b q b'

/-- The custom source is passed by. -/
inductive Passes (p : Settings.Plugin) (b : Sources) : Sources → Prop
  | unasked (hmode : p.customMode.truthy = false) : Passes p b b
  | unmet (hmode : p.customMode.truthy = true) (hnone : ∀ gs, ¬HoldsCustom b gs) :
      Passes p b (b.asked b.settings.customStickersPath)

/-- The catalog that a load puts in use. -/
inductive Decides (b : Sources) (address : Value) : List Group → Sources → Prop
  | custom {p : Settings.Plugin} {b₁ : Sources} {gs : List Group} (hp : GoesBy b p b₁)
      (hmode : p.customMode.truthy = true) (hgs : HoldsCustom b₁ gs) :
      Decides b address gs (b₁.asked b₁.settings.customStickersPath)
  | remote {p : Settings.Plugin} {b₁ b₂ : Sources} {gs : List Group} (hp : GoesBy b p b₁)
      (hpass : Passes p b₁ b₂) (hsource : (address.orElse p.configUrl).truthy = true)
      (hgs : Holds b₂.site (address.orElse p.configUrl) gs) :
      Decides b address gs (b₂.asked (address.orElse p.configUrl))
  | failed {p : Settings.Plugin} {b₁ b₂ : Sources} (hp : GoesBy b p b₁) (hpass : Passes p b₁ b₂)
      (hsource : (address.orElse p.configUrl).truthy = true)
      (hnone : ∀ gs, ¬Holds b₂.site (address.orElse p.configUrl) gs) :
      Decides b address builtin (b₂.asked (address.orElse p.configUrl))
  | unset {p : Settings.Plugin} {b₁ b₂ : Sources} (hp : GoesBy b p b₁) (hpass : Passes p b₁ b₂)
      (hsource : (address.orElse p.configUrl).truthy = false) : Decides b address builtin b₂
  | noSettings (hp : b.plugin = none) : Decides b address builtin b

theorem exists_learns (b : Sources) : ∃ p b', Learns b p b' := by
  by_cases hsent : ∃ p, Sends b p
  · obtain ⟨p, hsent⟩ := hsent
    exact ⟨_, _, .sent hsent⟩
  · exact ⟨_, _, .unsent (not_exists.mp hsent)⟩

theorem exists_goesBy (hp : b.plugin = some p) : ∃ q b', GoesBy b q b' := by
  cases hempty : p.isEmpty with
  | false => exact ⟨_, _, .own hp hempty⟩
  | true =>
      obtain ⟨q, b', hlearns⟩ := exists_learns b
      exact ⟨_, _, .learned hp hempty hlearns⟩

/-- There is a decision whatever the load starts from. -/
theorem exists_decides (b : Sources) (address : Value) : ∃ gs b', Decides b address gs b' := by
  cases hplugin : b.plugin with
  | none => exact ⟨_, _, .noSettings hplugin⟩
  | some p₀ =>
    obtain ⟨p, b₁, hp⟩ := exists_goesBy hplugin
    have hpassed (b₂ : Sources) (hpass : Passes p b₁ b₂) :
        ∃ gs b', Decides b address gs b' := by
      cases hsource : (address.orElse p.configUrl).truthy with
      | false => exact ⟨_, _, .unset hp hpass hsource⟩
      | true =>
        by_cases hgs : ∃ gs, Holds b₂.site (address.orElse p.configUrl) gs
        · obtain ⟨gs, hgs⟩ := hgs
          exact ⟨_, _, .remote hp hpass hsource hgs⟩
        · exact ⟨_, _, .failed hp hpass hsource (not_exists.mp hgs)⟩
    cases hmode : p.customMode.truthy with
    | false => exact hpassed _ (.unasked hmode)
    | true =>
      by_cases hgs : ∃ gs, HoldsCustom b₁ gs
      · obtain ⟨gs, hgs⟩ := hgs
        exact ⟨_, _, .custom hp hmode hgs⟩
      · exact hpassed _ (.unmet hmode (not_exists.mp hgs))

/-! ## Nobody breaks off later either -/

theorem Learns.unbroken (h : Learns b p b') (hu : b.site.Unbroken) : b'.site.Unbroken := by
  cases h with
  | sent => exact hu.get _
  | unsent => exact hu.get _

theorem GoesBy.unbroken (h : GoesBy b p b') (hu : b.site.Unbroken) : b'.site.Unbroken := by
  cases h with
  | own => exact hu
  | learned _ _ hlearns => exact hlearns.unbroken hu

theorem Passes.unbroken (h : Passes p b b') (hu : b.site.Unbroken) : b'.site.Unbroken := by
  cases h with
  | unasked => exact hu
  | unmet => exact hu.get _

theorem Decides.unbroken (h : Decides b address gs b') (hu : b.site.Unbroken) :
    b'.site.Unbroken := by
  cases h with
  | custom hp => exact (hp.unbroken hu).get _
  | remote hp hpass => exact (hpass.unbroken (hp.unbroken hu)).get _
  | failed hp hpass => exact (hpass.unbroken (hp.unbroken hu)).get _
  | unset hp hpass => exact hpass.unbroken (hp.unbroken hu)
  | noSettings => exact hu

/-! ## What is read -/

theorem holds_iff :
    Holds s address gs ↔ ((s.get address).2.bind readBytes).bind readGroups = .ok gs := by
  constructor
  · rintro ⟨v, hv, hgs⟩
    rw [Site.offers_iff.mp hv]
    exact readGroups_eq_ok.mpr hgs
  · intro h
    obtain ⟨v, hv, hgs⟩ := bind_eq_ok.mp h
    exact ⟨v, Site.offers_iff.mpr hv, readGroups_eq_ok.mp hgs⟩

/-- The custom catalog in data, if there is one. -/
def customIn (v : Value) : Except Trouble (Option (List Group)) :=
  if v.truthy then (readGroups v).map some else .ok none

theorem customIn_eq_some {v : Value} :
    customIn v = .ok (some gs) ↔ v.truthy = true ∧ ofValue v = .ok gs := by
  unfold customIn
  cases hv : v.truthy with
  | false => simp
  | true =>
      rw [← readGroups_eq_ok]
      cases readGroups v <;> simp [Except.map]

theorem steady_customIn (v : Value) : Steady (customIn v) := by
  unfold customIn
  split
  · exact (steady_readGroups v).map some
  · exact steady_ok _

theorem holdsCustom_iff :
    HoldsCustom b gs ↔
      ((b.site.get b.settings.customStickersPath).2.bind readBytes).bind customIn =
        .ok (some gs) := by
  constructor
  · rintro ⟨v, hv, hgs⟩
    rw [Site.offers_iff.mp hv]
    exact customIn_eq_some.mpr hgs
  · intro h
    obtain ⟨v, hv, hgs⟩ := bind_eq_ok.mp h
    exact ⟨v, Site.offers_iff.mpr hv, customIn_eq_some.mp hgs⟩

theorem fieldOf_map (es : Entries) (name : String) :
    Loader.fieldOf (.map es) name = .ok ((Entries.at? es name).getD .null) := by
  cases es <;> rfl

/-- A field that counts as present is the field of a map. -/
theorem fieldOf_truthy {v w : Value} {name : String} (h : Loader.fieldOf v name = .ok w)
    (hw : w.truthy = true) : ∃ es, v = .map es ∧ Entries.at? es name = some w := by
  by_cases hv : ∃ es, v = .map es
  · obtain ⟨es, rfl⟩ := hv
    rw [fieldOf_map, Except.ok.injEq] at h
    refine ⟨es, rfl, ?_⟩
    cases hat : Entries.at? es name with
    | none =>
        rw [hat] at h
        subst h
        cases hw
    | some u =>
        rw [hat] at h
        exact congrArg some h
  · exfalso
    unfold Loader.fieldOf Value.orElse at h
    cases htruthy : v.truthy with
    | true =>
        rw [htruthy] at h
        split at h
        · next es hes => exact hv ⟨es, hes⟩
        · cases h
    | false =>
        rw [htruthy] at h
        cases h
        cases hw

theorem steady_fieldOf (v : Value) (name : String) : Steady (Loader.fieldOf v name) := by
  unfold Loader.fieldOf
  split
  · exact steady_ok _
  · nofun

/-- The plugin settings in a JSON text, if there is a text. -/
def settingsInText (basic : Value) : Except Trouble (Option Settings.Plugin) :=
  if !basic.truthy then .ok none
  else
    match basic with
    | .scalar (.text s) => (readJson s).map fun v => some (.ofOutside v)
    | v => .error (.notText v.kindName)

theorem settingsIn_eq (v : Value) :
    Loader.settingsIn v =
      ((Loader.fieldOf v "data").bind (Loader.fieldOf · "basic")).bind settingsInText := by
  rw [Loader.settingsIn]
  cases Loader.fieldOf v "data" with
  | error t => rfl
  | ok data =>
    rw [ok_bind]
    change _ = (Loader.fieldOf data "basic").bind _
    cases Loader.fieldOf data "basic" with
    | error t => rfl
    | ok basic =>
      rw [ok_bind]
      change _ = settingsInText basic
      unfold settingsInText
      split
      · rfl
      · cases basic with
        | scalar c =>
          cases c with
          | text s => cases readJson s <;> rfl
          | _ => rfl
        | _ => rfl

/-- The empty text does not count as present, but it is no JSON text either. -/
theorem truthy_of_read {s : String} {v : Value} (h : Json.read? s = some v) :
    (Value.text s).truthy = true := by
  cases hs : s.isEmpty with
  | false => simp [Value.truthy, Scalar.truthy, hs]
  | true =>
      rw [String.isEmpty_iff] at hs
      subst hs
      cases h

theorem settingsInText_eq_some {basic : Value} :
    settingsInText basic = .ok (some p) ↔
      ∃ s v, basic = .text s ∧ Json.read? s = some v ∧ p = .ofOutside v := by
  constructor
  · intro h
    unfold settingsInText at h
    split at h
    · cases h
    · split at h
      · next s _ =>
        cases hread : readJson s with
        | error t => rw [hread] at h; cases h
        | ok v =>
          rw [hread] at h
          exact ⟨s, v, rfl, readJson_eq_ok.mp hread, (Option.some.inj (Except.ok.inj h)).symm⟩
      · cases h
  · rintro ⟨s, v, rfl, hread, rfl⟩
    rw [settingsInText, truthy_of_read hread]
    show (readJson s).map _ = _
    rw [readJson_eq_ok.mpr hread]
    rfl

theorem steady_settingsIn (v : Value) : Steady (Loader.settingsIn v) := by
  rw [settingsIn_eq]
  refine ((steady_fieldOf v _).bind fun d => steady_fieldOf d _).bind fun basic => ?_
  unfold settingsInText
  split
  · exact steady_ok _
  · split
    · exact (steady_readJson _).map _
    · nofun

theorem sends_iff :
    Sends b p ↔
      ((b.site.get b.settings.configMapPath).2.bind readBytes).bind Loader.settingsIn =
        .ok (some p) := by
  constructor
  · rintro ⟨es, data, basic, v, hv, hdata, hbasic, hread, hp⟩
    rw [Site.offers_iff.mp hv]
    show Loader.settingsIn (.map es) = _
    rw [settingsIn_eq, fieldOf_map, hdata]
    show (Loader.fieldOf (.map data) "basic").bind settingsInText = _
    rw [fieldOf_map, hbasic]
    exact settingsInText_eq_some.mpr ⟨basic, v, rfl, hread, hp⟩
  · intro h
    obtain ⟨v, hv, h⟩ := bind_eq_ok.mp h
    rw [settingsIn_eq] at h
    obtain ⟨basic, hfields, h⟩ := bind_eq_ok.mp h
    obtain ⟨d, hd, hb⟩ := bind_eq_ok.mp hfields
    obtain ⟨s, w, rfl, hread, hp⟩ := settingsInText_eq_some.mp h
    obtain ⟨data, rfl, hbasic⟩ := fieldOf_truthy hb (truthy_of_read hread)
    have hpresent : (Value.map data).truthy = true := by
      cases data with
      | nil => cases hbasic
      | cons e r => rfl
    obtain ⟨es, rfl, hdata⟩ := fieldOf_truthy hd hpresent
    exact ⟨es, data, s, w, Site.offers_iff.mpr hv, hdata, hbasic, hread, hp⟩

/-! ## The loader follows the decision -/

/-- The loader has come to these sources. Its store was left alone and nobody was called. -/
structure Advances (l l' : Loader) (b : Sources) : Prop where
  store : l'.store = l.store
  calls : l'.calls = l.calls
  sources : l'.sources = b

theorem Advances.trans {l'' : Loader} (h : Advances l l' b) (h' : Advances l' l'' b') :
    Advances l l'' b' where
  store := h'.store.trans h.store
  calls := h'.calls.trans h.calls
  sources := h'.sources

theorem advances_fetch (l : Loader) (address : Value) :
    Advances l (l.fetch address).1 (l.sources.asked address) := ⟨rfl, rfl, rfl⟩

theorem Advances.report (h : Advances l l' b) (level : Level) (text : String) :
    Advances l (l'.report level text) b := ⟨h.store, h.calls, h.sources⟩

theorem Advances.of_report {level : Level} {text : String}
    (h : Advances (l.report level text) l' b) : Advances l l' b := ⟨h.store, h.calls, h.sources⟩

theorem steady_fetch (hu : l.site.Unbroken) (address : Value) : Steady (l.fetch address).2 :=
  (hu.steady address).bind steady_readBytes

theorem loadPlugin_of_learns (hu : l.site.Unbroken) (h : Learns l.sources p b) :
    ∃ l', l.loadPlugin = (l', .ok p) ∧ Advances l l' b := by
  cases h with
  | sent hsent =>
      have hdata : (l.fetch l.settings.configMapPath).2.bind Loader.settingsIn = .ok (some p) :=
        sends_iff.mp hsent
      refine ⟨{ (l.fetch l.settings.configMapPath).1 with plugin := some p }, ?_, ⟨rfl, rfl, rfl⟩⟩
      unfold Loader.loadPlugin
      dsimp only
      rw [hdata]
  | unsent hnone =>
      have hsteady : Steady ((l.fetch l.settings.configMapPath).2.bind Loader.settingsIn) :=
        (steady_fetch hu _).bind steady_settingsIn
      have hfetch := advances_fetch l l.settings.configMapPath
      unfold Loader.loadPlugin
      dsimp only
      split
      · next p hp => exact (hnone p (sends_iff.mpr hp)).elim
      · exact ⟨_, rfl, hfetch⟩
      · next hbroken => exact absurd hbroken hsteady
      · exact ⟨_, rfl, hfetch.report _ _⟩

theorem choose_of_goesBy (hu : l.site.Unbroken) (h : GoesBy l.sources p b) (address : Value) :
    ∃ l', l.choose address = l'.chooseUnder p address ∧ Advances l l' b := by
  cases h with
  | own hp hown =>
      refine ⟨l, ?_, ⟨rfl, rfl, rfl⟩⟩
      rw [Loader.choose, show l.plugin = _ from hp]
      simp only [hown]
      rfl
  | learned hp hempty hlearns =>
      obtain ⟨l', heq, hl'⟩ := loadPlugin_of_learns hu hlearns
      refine ⟨l', ?_, hl'⟩
      rw [Loader.choose, show l.plugin = _ from hp]
      simp only [hempty, heq]
      rfl

theorem loadCustom_holds (h : HoldsCustom l.sources gs) :
    ∃ l', l.loadCustom = (l', .ok (some gs)) ∧
      Advances l l' (l.sources.asked l.settings.customStickersPath) := by
  have hdata : (l.fetch l.settings.customStickersPath).2.bind customIn = .ok (some gs) :=
    holdsCustom_iff.mp h
  refine ⟨_, ?_, advances_fetch l l.settings.customStickersPath⟩
  unfold Loader.loadCustom
  unfold customIn at hdata
  dsimp only
  rw [hdata]

theorem loadCustom_unmet (hu : l.site.Unbroken) (h : ∀ gs, ¬HoldsCustom l.sources gs) :
    ∃ l', l.loadCustom = (l', .ok none) ∧
      Advances l l' (l.sources.asked l.settings.customStickersPath) := by
  have hsteady : Steady ((l.fetch l.settings.customStickersPath).2.bind customIn) :=
    (steady_fetch hu _).bind steady_customIn
  have hfetch := advances_fetch l l.settings.customStickersPath
  unfold Loader.loadCustom
  dsimp only
  split
  · next r hr =>
    cases r with
    | none => exact ⟨_, rfl, hfetch⟩
    | some gs => exact (h gs (holdsCustom_iff.mpr hr)).elim
  · next hbroken => exact absurd hbroken hsteady
  · exact ⟨_, rfl, hfetch.report _ _⟩

theorem chooseUnder_of_custom (hmode : p.customMode.truthy = true) (h : HoldsCustom l.sources gs)
    (address : Value) :
    ∃ l', l.chooseUnder p address = (l', .ok (gs, Loader.customSource)) ∧
      Advances l l' (l.sources.asked l.settings.customStickersPath) := by
  obtain ⟨l', heq, hl'⟩ := loadCustom_holds (l := l.report .info "從自訂模式載入表情") h
  refine ⟨l', ?_, hl'.of_report⟩
  rw [Loader.chooseUnder, if_pos hmode, heq]

theorem chooseUnder_of_passes (hu : l.site.Unbroken) (h : Passes p l.sources b)
    (address : Value) :
    ∃ l', l.chooseUnder p address = l'.loadFrom (address.orElse p.configUrl) ∧
      Advances l l' b := by
  cases h with
  | unasked hmode =>
      refine ⟨l, ?_, ⟨rfl, rfl, rfl⟩⟩
      rw [Loader.chooseUnder, hmode]
      rfl
  | unmet hmode hnone =>
      obtain ⟨l', heq, hl'⟩ := loadCustom_unmet (l := l.report .info "從自訂模式載入表情") hu hnone
      refine ⟨l', ?_, hl'.of_report⟩
      rw [Loader.chooseUnder, if_pos hmode, heq]

/-- The groups of what was chosen: without a choice the built-in ones. -/
def taken : Except Trouble (List Group × String) → List Group
  | .ok (gs, _) => gs
  | .error _ => builtin

theorem loadFrom_remote (hu : l.site.Unbroken) (hsource : address.truthy = true) :
    Advances l (l.loadFrom address).1 (l.sources.asked address) ∧
      Steady (l.loadFrom address).2 ∧
      (∀ gs, Holds l.site address gs → taken (l.loadFrom address).2 = gs) ∧
      ((∀ gs, ¬Holds l.site address gs) → taken (l.loadFrom address).2 = builtin) := by
  have heq : (l.loadFrom address).2 =
      ((l.fetch address).2.bind readGroups).map (·, address.plain) := by
    rw [Loader.loadFrom, if_pos hsource]
    rfl
  refine ⟨?_, ?_, fun gs h => ?_, fun h => ?_⟩
  · rw [Loader.loadFrom, if_pos hsource]
    exact ⟨rfl, rfl, rfl⟩
  · rw [heq]
    exact ((steady_fetch hu _).bind steady_readGroups).map _
  · rw [heq, show (l.fetch address).2.bind readGroups = .ok gs from holds_iff.mp h]
    rfl
  · rw [heq]
    cases hdata : (l.fetch address).2.bind readGroups with
    | ok gs => exact (h gs (holds_iff.mpr hdata)).elim
    | error t => rfl

theorem choose_of_passes {b₁ b₂ : Sources} (hu : l.site.Unbroken) (hp : GoesBy l.sources p b₁)
    (hpass : Passes p b₁ b₂) (address : Value) :
    ∃ l', l.choose address = l'.loadFrom (address.orElse p.configUrl) ∧ l'.site.Unbroken ∧
      Advances l l' b₂ := by
  have hu₁ := hp.unbroken hu
  have hu₂ := hpass.unbroken hu₁
  obtain ⟨l₁, hchoose, hl₁⟩ := choose_of_goesBy hu hp address
  obtain rfl := hl₁.sources
  obtain ⟨l₂, hunder, hl₂⟩ := chooseUnder_of_passes hu₁ hpass address
  obtain rfl := hl₂.sources
  exact ⟨l₂, hchoose.trans hunder, hu₂, hl₁.trans hl₂⟩

/-- **The loader chooses what is decided.** -/
theorem Decides.choose (hu : l.site.Unbroken) (h : Decides l.sources address gs b) :
    Advances l (l.choose address).1 b ∧ taken (l.choose address).2 = gs ∧
      Steady (l.choose address).2 := by
  cases h with
  | custom hp hmode hgs =>
      obtain ⟨l₁, hchoose, hl₁⟩ := choose_of_goesBy hu hp address
      obtain rfl := hl₁.sources
      obtain ⟨l₂, hunder, hl₂⟩ := chooseUnder_of_custom hmode hgs address
      rw [hchoose, hunder]
      exact ⟨hl₁.trans hl₂, rfl, steady_ok _⟩
  | remote hp hpass hsource hgs =>
      obtain ⟨l', hchoose, hu', hl'⟩ := choose_of_passes hu hp hpass address
      obtain rfl := hl'.sources
      obtain ⟨hfrom, hsteady, hholds, -⟩ := loadFrom_remote hu' hsource
      rw [hchoose]
      exact ⟨hl'.trans hfrom, hholds gs hgs, hsteady⟩
  | failed hp hpass hsource hnone =>
      obtain ⟨l', hchoose, hu', hl'⟩ := choose_of_passes hu hp hpass address
      obtain rfl := hl'.sources
      obtain ⟨hfrom, hsteady, -, hfailed⟩ := loadFrom_remote hu' hsource
      rw [hchoose]
      exact ⟨hl'.trans hfrom, hfailed hnone, hsteady⟩
  | unset hp hpass hsource =>
      obtain ⟨l', hchoose, -, hl'⟩ := choose_of_passes hu hp hpass address
      rw [hchoose, Loader.loadFrom, hsource]
      exact ⟨hl', rfl, steady_ok _⟩
  | noSettings hp =>
      rw [Loader.choose, show l.plugin = none from hp]
      exact ⟨⟨rfl, rfl, rfl⟩, rfl, nofun⟩

/-- There is only one decision. -/
theorem Decides.unique {gs' : List Group} (hu : b.site.Unbroken) (h : Decides b address gs b')
    {c : Sources} (h' : Decides b address gs' c) : gs' = gs ∧ c = b' := by
  let l : Loader := { settings := b.settings, plugin := b.plugin, site := b.site }
  have hu' : l.site.Unbroken := hu
  have h₁ := Decides.choose (l := l) hu' h
  have h₂ := Decides.choose (l := l) hu' h'
  exact ⟨h₂.2.1.symm.trans h₁.2.1, h₂.1.sources.symm.trans h₁.1.sources⟩

/-! ## What an order does -/

/-- A store while a catalog is being fetched. -/
def Store.opened (s : Store) : Store := { s with loading := true, loaded := false }

/-- A store once a catalog has been fetched. -/
def Store.settled (s : Store) : Store := { s with loading := false, loaded := true }

/-- The groups are put in use, once, and with this the load is over. -/
structure Puts (l : Loader) (gs : List Group) (l' : Loader) : Prop where
  store : l'.store = (l.store.opened.replace gs).1.settled
  groups : l'.store.groups = gs
  calls : l'.calls = l.calls ++ l.store.subscribers.map fun name => ⟨name, gs, true, false⟩

/-- What a loader is told to do. -/
inductive Order where
  | load (address : Value)
  | reload (address : Value)
  | loadPlugin

/-- Does as told. -/
def Loader.obey (l : Loader) : Order → Loader
  | .load address => l.load address
  | .reload address => l.reload address
  | .loadPlugin => l.loadPlugin.1

/-- Does as told, again and again. -/
def Loader.obeyAll (l : Loader) (orders : List Order) : Loader := orders.foldl obey l

/-- The address of a load that the order begins. -/
def Order.begins? (o : Order) (loaded : Bool) : Option Value :=
  match o with
  | .load address => if loaded then none else some address
  | .reload address => some address
  | .loadPlugin => none

/-- What an order does to a loader. -/
inductive Obeyed (l : Loader) : Order → Loader → Prop
  /-- A catalog is loaded already. -/
  | idle {address : Value} (hloaded : l.store.loaded = true) : Obeyed l (.load address) l
  /-- The catalog that is decided on is put in use. -/
  | puts {o : Order} {address : Value} {gs : List Group} {l' : Loader}
      (hbegins : o.begins? l.store.loaded = some address)
      (hdecides : ∀ gs' b, Decides l.sources address gs' b ↔ gs' = gs ∧ b = l'.sources)
      (hputs : Puts l gs l') : Obeyed l o l'
  /-- The plugin settings are asked for. -/
  | learns {p : Settings.Plugin} {l' : Loader} (hanswer : l.loadPlugin.2 = .ok p)
      (hlearns : Learns l.sources p l'.sources) (hstore : l'.store = l.store)
      (hcalls : l'.calls = l.calls) : Obeyed l .loadPlugin l'

theorem settle_of_steady {chosen : Except Trouble (List Group × String)} (h : Steady chosen)
    (l : Loader) :
    (l.settle chosen).store = { (l.store.replace (taken chosen)).1 with loaded := true } ∧
      (l.settle chosen).calls = l.calls ++ (l.store.replace (taken chosen)).2 ∧
      (l.settle chosen).sources = l.sources := by
  unfold Loader.settle
  split
  · exact ⟨rfl, rfl, rfl⟩
  · exact absurd rfl h
  · exact ⟨rfl, rfl, rfl⟩

/-- **A load that begins puts in use what is decided.** -/
theorem load_puts (hu : l.site.Unbroken) (hl : l.store.loaded = false)
    (h : Decides l.sources address gs b) :
    Puts l gs (l.load address) ∧ (l.load address).sources = b := by
  have hopened : (l.setLoading true).store = l.store.opened := by
    unfold Store.opened
    rw [← hl]
    rfl
  obtain ⟨hchoose, htaken, hsteady⟩ := Decides.choose (l := l.setLoading true) hu h
  obtain ⟨hstore, hcalls, hsources⟩ :=
    settle_of_steady hsteady ((l.setLoading true).choose address).1
  have heq : l.load address =
      (((l.setLoading true).choose address).1.settle
        ((l.setLoading true).choose address).2).setLoading false := by
    rw [Loader.load, hl]
    rfl
  rw [htaken, hchoose.store, hopened] at hstore hcalls
  have hput : (l.load address).store = (l.store.opened.replace gs).1.settled := by
    rw [heq, Loader.setLoading, hstore]
    rfl
  refine ⟨⟨hput, ?_, ?_⟩, ?_⟩
  · rw [hput]
    exact Store.replace_groups l.store.opened gs
  · rw [heq, Loader.setLoading, hcalls, hchoose.calls, Store.replace_calls]
    rfl
  · rw [heq]
    exact hsources.trans hchoose.sources

theorem reload_puts (hu : l.site.Unbroken) (h : Decides l.sources address gs b) :
    Puts l gs (l.reload address) ∧ (l.reload address).sources = b := by
  obtain ⟨hputs, hsources⟩ :=
    load_puts (l := { l with store := { l.store with loaded := false } }) hu rfl h
  exact ⟨⟨hputs.store, hputs.groups, hputs.calls⟩, hsources⟩

/-- One order, carried out. -/
theorem obey_obeyed (hu : l.site.Unbroken) (o : Order) : Obeyed l o (l.obey o) := by
  have hputs {address : Value} (hbegins : o.begins? l.store.loaded = some address)
      (hload : ∀ gs b, Decides l.sources address gs b →
        Puts l gs (l.obey o) ∧ (l.obey o).sources = b) : Obeyed l o (l.obey o) := by
    obtain ⟨gs, b, hd⟩ := exists_decides l.sources address
    obtain ⟨hputs, rfl⟩ := hload gs b hd
    refine .puts hbegins (fun gs' b => ⟨fun h => hd.unique hu h, ?_⟩) hputs
    rintro ⟨rfl, rfl⟩
    exact hd
  cases o with
  | load address =>
      cases hl : l.store.loaded with
      | true =>
          have hidle : l.obey (.load address) = l := by
            show l.load address = l
            rw [Loader.load, if_pos hl]
          rw [hidle]
          exact .idle hl
      | false => exact hputs (by rw [hl]; rfl) fun gs b => load_puts hu hl
  | reload address => exact hputs rfl fun gs b => reload_puts hu
  | loadPlugin =>
      obtain ⟨p, b, hlearns⟩ := exists_learns l.sources
      obtain ⟨l', heq, hl'⟩ := loadPlugin_of_learns hu hlearns
      obtain rfl := hl'.sources
      have hobey : l.obey .loadPlugin = l' := congrArg Prod.fst heq
      rw [hobey]
      exact .learns (congrArg Prod.snd heq) hlearns hl'.store hl'.calls

theorem Obeyed.unbroken {o : Order} (h : Obeyed l o l') (hu : l.site.Unbroken) :
    l'.site.Unbroken := by
  cases h with
  | idle => exact hu
  | puts hbegins hdecides =>
      have hd := (hdecides _ _).mpr ⟨rfl, rfl⟩
      exact hd.unbroken hu
  | learns _ hlearns => exact hlearns.unbroken hu

theorem obeyAll_unbroken (hu : l.site.Unbroken) (orders : List Order) :
    (l.obeyAll orders).site.Unbroken := by
  induction orders generalizing l with
  | nil => exact hu
  | cons o r ih => exact ih ((obey_obeyed hu o).unbroken hu)

/-- **Each order of a run does what it should,** whatever orders came before it. -/
theorem obeyAll_obeyed (hu : l.site.Unbroken) (orders : List Order) (o : Order) :
    Obeyed (l.obeyAll orders) o (l.obeyAll (orders ++ [o])) := by
  have hlast : l.obeyAll (orders ++ [o]) = (l.obeyAll orders).obey o := List.foldl_append
  rw [hlast]
  exact obey_obeyed (obeyAll_unbroken hu orders) o

/-- A loader whose server sends plugin settings at first. They ask for a custom catalog, which cannot
be had, and name an address, where another catalog lies each time. -/
def sampleLoader : Loader where
  settings := { configMapPath := .text "/map", customStickersPath := .text "/own" }
  store := { (({} : Store).subscribe "panel" .once) with groups := builtin }
  site :=
    { base := "http://s"
      routes :=
        [("http://s/map",
          [.answer 200 ("\x7b\"data\": \x7b\"basic\": \"" ++
            "\x7b\\\"enableCustomMode\\\": 1, \\\"stickerConfigUrl\\\": \\\"/list\\\"\x7d" ++
            "\"\x7d\x7d"), .broken]),
         ("http://s/own", [.answer 500 ""]),
         ("http://s/list",
          [.answer 200 "\x7b\"first\": \x7b\x7d\x7d",
           .answer 200 "\"\x7b\\\"second\\\": \x7b\x7d\x7d\""])] }

theorem obeyAll_obeyed_sampleLoader :
    sampleLoader.site.Unbroken ∧
      Obeyed (sampleLoader.obeyAll [.load .null, .loadPlugin]) (.reload .null)
        (sampleLoader.obeyAll [.load .null, .loadPlugin, .reload .null]) ∧
      (sampleLoader.obeyAll [.load .null, .loadPlugin]).store.groups.map (·.name) = ["first"] ∧
      (sampleLoader.obeyAll [.load .null, .loadPlugin, .reload .null]).store.groups.map (·.name) =
        ["second"] := by
  have hu : sampleLoader.site.Unbroken := Site.unbroken_of_all (by decide +kernel)
  exact ⟨hu, obeyAll_obeyed hu [.load .null, .loadPlugin] (.reload .null), by decide +kernel,
    by decide +kernel⟩

end StickerPages.Catalog
