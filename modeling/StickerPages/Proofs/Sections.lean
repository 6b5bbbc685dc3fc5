import StickerPages.Proofs.Answers
import StickerPages.Proofs.Writes
import StickerPages.Settings.Source

/-!
# Entries under texts

Keys of a map can be numbers, dates or nothing, and then equality is a matter of fractions. Settings
are found under texts only, and texts are told apart as such. So of a map only the entries under
texts matter to a configuration (`readApp_eq`), and on these writing and merging are what they are
on any map whose keys are told apart.

Data that was read from a file has each text once (`textsOnce_readData`), and data with this
property is laid over nothing without a change (`readApp_merge_nil`).
-/

namespace StickerPages

/-! ## Keys that are texts -/

/-- The entries under texts. -/
def Entries.texts : Entries → List (String × Value)
  | [] => []
  | (.text s, v) :: r => (s, v) :: texts r
  | _ :: r => texts r

namespace Entries

variable {es fs : Entries} {k : Scalar} {v : Value}

theorem text_or (k : Scalar) : (∃ s, k = .text s) ∨ ∀ s, k ≠ .text s := by
  cases k with
  | text s => exact .inl ⟨s, rfl⟩
  | _ => exact .inr nofun

theorem texts_cons_text (s : String) (v : Value) (es : Entries) :
    texts ((.text s, v) :: es) = (s, v) :: texts es := by rw [texts]

theorem texts_cons_other (hk : ∀ s, k ≠ .text s) : texts ((k, v) :: es) = texts es := by
  cases k with
  | text s => exact absurd rfl (hk s)
  | _ => rw [texts]; simp

theorem beq_text (s t : String) : (Scalar.text s == .text t) = (s == t) := rfl

theorem text_beq_other {s : String} (hk : ∀ s, k ≠ .text s) : (Scalar.text s == k) = false := by
  cases k with
  | text s => exact absurd rfl (hk s)
  | _ => rfl

theorem other_beq_text {s : String} (hk : ∀ s, k ≠ .text s) : (k == Scalar.text s) = false := by
  cases k with
  | text s => exact absurd rfl (hk s)
  | _ => rfl

/-- What stands under a text stands there among the texts. -/
theorem at?_eq (es : Entries) (s : String) : es.at? s = es.texts.lookup s := by
  induction es with
  | nil => rfl
  | cons e r ih =>
      obtain ⟨k, v⟩ := e
      rw [at?] at ih ⊢
      rcases text_or k with ⟨t, rfl⟩ | hk
      · rw [texts_cons_text, List.lookup_cons, List.lookup_cons, beq_text, ih]
      · rw [texts_cons_other hk, List.lookup_cons, text_beq_other hk, ← ih]

theorem texts_put_text (es : Entries) (s : String) (v : Value) :
    texts (Pairs.put es (.text s) v) = Pairs.put es.texts s v := by
  induction es with
  | nil => rfl
  | cons e r ih =>
      obtain ⟨k, w⟩ := e
      rcases text_or k with ⟨t, rfl⟩ | hk
      · rw [Pairs.put, texts_cons_text, Pairs.put, beq_text]
        by_cases ht : t == s
        · rw [if_pos ht, if_pos ht, texts_cons_text]
        · rw [if_neg ht, if_neg ht, texts_cons_text, ih]
      · rw [Pairs.put, other_beq_text hk, if_neg (by decide), texts_cons_other hk,
          texts_cons_other hk, ih]

/-- A write under another key leaves the texts alone. -/
theorem texts_put_other (es : Entries) (hk : ∀ s, k ≠ .text s) (v : Value) :
    texts (Pairs.put es k v) = es.texts := by
  induction es with
  | nil => exact texts_cons_other hk
  | cons e r ih =>
      obtain ⟨l, w⟩ := e
      rw [Pairs.put]
      rcases text_or l with ⟨t, rfl⟩ | hl
      · rw [text_beq_other hk, if_neg (by decide), texts_cons_text, texts_cons_text, ih]
      · split
        · rw [texts_cons_other hl, texts_cons_other hl]
        · rw [texts_cons_other hl, texts_cons_other hl, ih]

theorem texts_putAll (ws : Entries) :
    ∀ es : Entries, texts (Pairs.putAll es ws) = Pairs.putAll es.texts ws.texts := by
  induction ws with
  | nil => exact fun _ => rfl
  | cons w r ih =>
      intro es
      obtain ⟨k, v⟩ := w
      have hstep : Pairs.putAll es ((k, v) :: r) = Pairs.putAll (Pairs.put es k v) r := rfl
      rw [hstep, ih]
      rcases text_or k with ⟨t, rfl⟩ | hk
      · rw [texts_put_text, texts_cons_text]
        rfl
      · rw [texts_put_other es hk, texts_cons_other hk]

/-- Each text stands in front of one entry. -/
def TextsOnce (es : Entries) : Prop := (es.texts.map (·.1)).Nodup

theorem textsOnce_putAll (ws : Entries) : TextsOnce (Pairs.putAll [] ws) := by
  rw [TextsOnce, texts_putAll]
  exact Pairs.nodup_keys_putAll _ List.nodup_nil

end Entries

/-! ## Data from files -/

/-- A map is made of pairs by writing them one after the other. -/
theorem Yaml.Node.exists_pairs {n : Yaml.Node} {es : Entries} (h : n.value = .ok (.map es)) :
    ∃ pairs taken own, pairValues pairs = .ok (taken, own) ∧
      es = Pairs.putAll [] (taken ++ own) := by
  cases n with
  | text tag isPlain s =>
      rw [value] at h
      cases ht : textValue tag isPlain s <;> rw [ht] at h <;> cases h
  | sequence tag items =>
      rw [value] at h
      split at h
      · cases hi : itemValues items <;> rw [hi] at h <;> cases h
      · cases h
  | mapping tag pairs =>
      rw [value] at h
      split at h
      · split at h
        · next taken own hpairs =>
          cases h
          exact ⟨pairs, taken, own, hpairs, rfl⟩
        · cases h
      · cases h

/-- Data that was read has each text once: a later entry under a text replaces the earlier one. -/
theorem Yaml.Node.textsOnce_value {n : Yaml.Node} {es : Entries} (h : n.value = .ok (.map es)) :
    es.TextsOnce := by
  obtain ⟨-, taken, own, -, rfl⟩ := n.exists_pairs h
  exact Entries.textsOnce_putAll _

theorem Yaml.exists_node {s : String} {v : Value} (h : Yaml.read s = .ok v) :
    v = .null ∨ ∃ n : Yaml.Node, n.value = .ok v := by
  unfold Yaml.read at h
  obtain ⟨tokens, -, h⟩ := bind_eq_ok.mp h
  obtain ⟨root, -, h⟩ := bind_eq_ok.mp h
  cases root with
  | none => exact .inl (Except.ok.inj h).symm
  | some n => exact .inr ⟨n, h⟩

namespace Settings

open Entries

/-- A map in a file is the value of a node, or an empty one in the place of nothing. -/
theorem exists_node_readData {d : Disk} {p : Path} {es : Entries}
    (h : readData d p = .ok (.map es)) : es = [] ∨ ∃ n : Yaml.Node, n.value = .ok (.map es) := by
  unfold readData at h
  obtain ⟨s, -, h⟩ := bind_eq_ok.mp h
  obtain ⟨v, hv, h⟩ := bind_eq_ok.mp h
  have hv' : Yaml.read s = .ok v := by
    cases hread : Yaml.read s with
    | ok w =>
        rw [hread] at hv
        cases hv
        rfl
    | error f =>
        rw [hread] at hv
        cases hv
  have hvalue : v.orElse (.map []) = .map es := Except.ok.inj h
  unfold Value.orElse at hvalue
  split at hvalue
  · subst hvalue
    obtain hnull | hnode := Yaml.exists_node hv'
    · cases hnull
    · exact .inr hnode
  · cases hvalue
    exact .inl rfl

theorem textsOnce_readData {d : Disk} {p : Path} {es : Entries}
    (h : readData d p = .ok (.map es)) : es.TextsOnce := by
  obtain rfl | ⟨n, hn⟩ := exists_node_readData h
  · exact List.nodup_nil
  · exact n.textsOnce_value hn

/-! ## Merging -/

theorem layOver_none (v : Value) : layOver none v = v := by
  cases v <;> simp [layOver]

/-- New texts come last. -/
theorem texts_merge {fs : Entries} :
    ∀ {es : Entries}, ((texts es ++ texts fs).map (·.1)).Nodup →
      texts (merge es fs) = texts es ++ texts fs := by
  induction fs with
  | nil =>
      intro es _
      rw [merge, texts, List.append_nil]
  | cons f r ih =>
      intro es h
      obtain ⟨k, v⟩ := f
      rw [merge]
      rcases text_or k with ⟨s, rfl⟩ | hk
      · rw [texts_cons_text] at h ⊢
        have hnew : s ∉ (texts es).map (·.1) := by
          rw [List.map_append, List.nodup_append] at h
          exact fun hs => h.2.2 s hs s List.mem_cons_self rfl
        have hput : texts (Pairs.put es (.text s) (layOver (es.lookup (.text s)) v)) =
            texts es ++ [(s, v)] := by
          have hlookup : es.lookup (.text s) = none := by
            refine (at?_eq es s).trans (List.lookup_eq_none_iff.mpr fun e he => ?_)
            rw [bne_iff_ne]
            rintro rfl
            exact hnew (List.mem_map_of_mem he)
          have hhas : Pairs.has (texts es) s = false := by
            rw [← Bool.not_eq_true, Pairs.has_iff]
            exact hnew
          rw [hlookup, layOver_none, texts_put_text, Pairs.put_of_not_has hhas]
        rw [ih (by rw [hput]; simpa using h), hput, List.append_assoc, List.singleton_append]
      · rw [texts_cons_other hk] at h ⊢
        have hput := texts_put_other es hk (layOver (es.lookup k) v)
        rw [ih (by rwa [hput]), hput]

theorem texts_merge_nil {fs : Entries} (h : fs.TextsOnce) : texts (merge [] fs) = texts fs :=
  texts_merge h

/-! ## Sections -/

/-- Reads an entry under a text. -/
def readText (a : App) (e : String × Value) : App := (readEntry (a, []) (.text e.1, e.2)).1

theorem readEntry_fst (a : App) (log : Log) (e : Scalar × Value) :
    (readEntry (a, log) e).1 = (readEntry (a, []) e).1 := by
  dsimp only [readEntry]
  split <;> rfl

/-- An entry under another key names no section. -/
theorem readEntry_other {k : Scalar} (hk : ∀ s, k ≠ .text s) (a : App) (log : Log) (v : Value) :
    (readEntry (a, log) (k, v)).1 = a := by
  cases k with
  | text s => exact absurd rfl (hk s)
  | _ => rfl

/-- **Only the entries under texts make the configuration.** -/
theorem readApp_eq (es : Entries) : (readApp es).1 = (texts es).foldl readText {} := by
  have hfold : ∀ (es : Entries) (r : App × Log),
      (es.foldl readEntry r).1 = (texts es).foldl readText r.1 := by
    intro es
    induction es with
    | nil => exact fun _ => rfl
    | cons e r ih =>
        intro ⟨a, log⟩
        obtain ⟨k, v⟩ := e
        rw [List.foldl_cons, ih]
        rcases text_or k with ⟨s, rfl⟩ | hk
        · rw [texts_cons_text, List.foldl_cons, readText, ← readEntry_fst]
        · rw [texts_cons_other hk]
          rw [readEntry_other hk]
  exact hfold es ({}, [])

/-- Data from a file is laid over nothing without a change to the configuration. -/
theorem readApp_merge_nil {fs : Entries} (h : fs.TextsOnce) :
    (readApp (merge [] fs)).1 = (readApp fs).1 := by
  rw [readApp_eq, readApp_eq, texts_merge_nil h]

end Settings

end StickerPages
