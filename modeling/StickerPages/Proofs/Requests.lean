import StickerPages.Proofs.Answers
import StickerPages.Remote.Body

/-!
# What lies at an address

A request changes the site it goes to: it takes a reply away. So what lies at an address is a matter
of the site's state, and is said as a relation between the state and the data (`Site.Offers`). That
the data may be wrapped once more is part of it (`Unwraps`).

Of all trouble one kind is not dealt with by those who make requests: that the user breaks off. A
site where that does not happen stays such a site (`Site.Unbroken`), and nothing that is read there
ends that way (`Steady`).
-/

namespace StickerPages.Remote

/-! ## Data in a body -/

/-- The text holds this data, bare or wrapped in one more JSON text. -/
inductive Unwraps (text : String) : Value → Prop
  | bare {v : Value} (hread : Json.read? text = some v) (hbare : ∀ t, v ≠ .text t) : Unwraps text v
  | wrapped {inner : String} {v : Value} (hread : Json.read? text = some (.text inner))
      (hinner : Json.read? inner = some v) : Unwraps text v

theorem readJson_eq_ok {text : String} {v : Value} :
    readJson text = .ok v ↔ Json.read? text = some v := by
  unfold readJson
  split
  · next w hw => simp [hw]
  · next hw => simp [hw]

theorem readBody_of_text {text inner : String} (h : Json.read? text = some (.text inner)) :
    readBody text = readJson inner := by
  rw [readBody, readJson_eq_ok.mpr h]
  rfl

theorem readBody_of_bare {text : String} {v : Value} (h : Json.read? text = some v)
    (hbare : ∀ t, v ≠ .text t) : readBody text = .ok v := by
  rw [readBody, readJson_eq_ok.mpr h]
  dsimp only [bind, Except.bind]
  split
  · next inner => exact absurd rfl (hbare inner)
  · rfl

theorem unwraps_iff {text : String} {v : Value} : Unwraps text v ↔ readBody text = .ok v := by
  constructor
  · rintro (⟨hread, hbare⟩ | ⟨hread, hinner⟩)
    · exact readBody_of_bare hread hbare
    · rw [readBody_of_text hread, readJson_eq_ok.mpr hinner]
  · intro h
    cases hread : Json.read? text with
    | none =>
        have hnot : readJson text = .error .notJson := by rw [readJson, hread]
        rw [readBody, hnot] at h
        cases h
    | some w =>
        by_cases hbare : ∀ t, w ≠ .text t
        · rw [readBody_of_bare hread hbare] at h
          cases h
          exact .bare hread hbare
        · rw [not_forall] at hbare
          obtain ⟨inner, hw⟩ := hbare
          rw [not_not] at hw
          subst hw
          rw [readBody_of_text hread, readJson_eq_ok] at h
          exact .wrapped hread h

/-! ## Trouble that is dealt with -/

variable {α β : Type}

/-- The user did not break off. -/
def Steady (r : Except Trouble α) : Prop := r ≠ .error .brokenOff

theorem steady_ok (a : α) : Steady (.ok a) := nofun

theorem Steady.bind {r : Except Trouble α} {f : α → Except Trouble β} (hr : Steady r)
    (hf : ∀ a, Steady (f a)) : Steady (r.bind f) := by
  cases r with
  | ok a => exact hf a
  | error t => exact fun h => hr (congrArg Except.error (Except.error.inj h))

theorem Steady.map {r : Except Trouble α} (hr : Steady r) (f : α → β) : Steady (r.map f) := by
  cases r with
  | ok a => exact steady_ok _
  | error t => exact fun h => hr (congrArg Except.error (Except.error.inj h))

theorem steady_readJson (text : String) : Steady (readJson text) := by
  unfold readJson
  split <;> nofun

theorem steady_readBody (body : String) : Steady (readBody body) := by
  refine (steady_readJson body).bind fun v => ?_
  split
  · exact steady_readJson _
  · exact steady_ok _

theorem steady_readBytes (body : String) : Steady (readBytes body) := by
  unfold readBytes
  split
  · exact steady_readBody _
  · nofun

theorem readGroups_eq_ok {v : Value} {gs : List Catalog.Group} :
    readGroups v = .ok gs ↔ Catalog.ofValue v = .ok gs := by
  unfold readGroups
  cases Catalog.ofValue v with
  | ok gs' => rw [Except.mapError, Except.ok.injEq, Except.ok.injEq]
  | error t => exact ⟨nofun, nofun⟩

theorem steady_readGroups (v : Value) : Steady (readGroups v) := by
  unfold readGroups
  cases Catalog.ofValue v <;> nofun

namespace Site

variable {s : Site} {address : Value}

/-! ## Sites where nobody breaks off -/

/-- No reply that is still to come breaks off. -/
def Unbroken (s : Site) : Prop :=
  ∀ address replies, s.routes.lookup address = some replies → .brokenOff ∉ replies

theorem unbroken_of_all (h : ∀ route ∈ s.routes, .brokenOff ∉ route.2) : s.Unbroken := by
  intro address replies hlook
  obtain ⟨front, back, hroutes, -⟩ := List.lookup_eq_some_iff.mp hlook
  exact h (address, replies) (hroutes ▸ List.mem_append_right front List.mem_cons_self)

theorem next_unbroken {replies : List Reply} (h : .brokenOff ∉ replies) :
    (next replies).1 ≠ .brokenOff ∧ .brokenOff ∉ (next replies).2 := by
  match replies with
  | [] => exact ⟨nofun, List.not_mem_nil⟩
  | [r] => exact ⟨fun hr => h (hr ▸ List.mem_singleton_self r), h⟩
  | r :: r' :: rs =>
      exact ⟨fun hr => h (hr ▸ List.mem_cons_self), fun hrs => h (List.mem_cons_of_mem r hrs)⟩

theorem Unbroken.ask (h : s.Unbroken) (full : String) :
    (s.ask full).1.Unbroken ∧ (s.ask full).2 ≠ .brokenOff := by
  unfold Site.ask
  split
  · exact ⟨h, nofun⟩
  · next replies hlook =>
    obtain ⟨hreply, hrest⟩ := next_unbroken (h full replies hlook)
    refine ⟨fun a rs ha => ?_, hreply⟩
    by_cases hne : a = full
    · subst hne
      obtain rfl : (next replies).2 = rs :=
        Option.some.inj ((Pairs.lookup_put_self ..).symm.trans ha)
      exact hrest
    · exact h a rs ((Pairs.lookup_put_other _ _ hne).symm.trans ha)

theorem Unbroken.get (h : s.Unbroken) (address : Value) : (s.get address).1.Unbroken := by
  unfold Site.get
  split
  · exact h
  · exact (h.ask _).1

theorem Unbroken.steady (h : s.Unbroken) (address : Value) : Steady (s.get address).2 := by
  unfold Site.get
  split
  · next t ht =>
    unfold resolve at ht
    split at ht
    · split at ht <;> cases ht
      nofun
    · cases ht
      nofun
  · next full _ =>
    have hreply := (h.ask full).2
    show Steady (bodyOf (s.ask full).2)
    unfold bodyOf
    split
    · split <;> nofun
    · nofun
    · next hr => exact absurd hr hreply

/-! ## Data at an address -/

/-- This data lies at an address. -/
def Offers (s : Site) (address v : Value) : Prop :=
  ∃ body text, (s.get address).2 = .ok body ∧ recode? body = some text ∧ Unwraps text v

theorem offers_iff {v : Value} :
    s.Offers address v ↔ (s.get address).2.bind readBytes = .ok v := by
  constructor
  · rintro ⟨body, text, hget, htext, hv⟩
    rw [hget]
    show readBytes body = .ok v
    rw [readBytes, htext]
    exact unwraps_iff.mp hv
  · intro h
    cases hget : (s.get address).2 with
    | error t => rw [hget] at h; cases h
    | ok body =>
        rw [hget] at h
        change readBytes body = .ok v at h
        unfold readBytes at h
        split at h
        · next text htext => exact ⟨body, text, hget, htext, unwraps_iff.mpr h⟩
        · cases h

end Site

end StickerPages.Remote
