import StickerPages.Proofs.Sheets

/-!
# A style sheet item by item

What stands on the top level of a style sheet is a row of items: rules, conditional blocks and
statements (`Item`). Read item by item, such a sheet has just the rules that it is made of, with all
that stands in their braces, and nothing of what stands inside a conditional block (`rules_sheetOf`).

The search for rules needs nothing of what it has read, once no block is open and nothing stands in
front of the next one (`AtRest`). So a sheet can be cut there, and the rest need not be a row of items
(`rules_append`).
-/

namespace StickerPages.Style

variable {cs lead body : List Char}

/-! ## Items -/

/-- Text with a closing brace for each opening one. -/
inductive Balanced : List Char → Prop
  | nil : Balanced []
  | solid {c : Char} {cs : List Char} (hopening : c ≠ '\x7b') (hclosing : c ≠ '\x7d')
      (h : Balanced cs) : Balanced (c :: cs)
  | block {inner cs : List Char} (hinner : Balanced inner) (h : Balanced cs) :
      Balanced ('\x7b' :: (inner ++ '\x7d' :: cs))

/-- Text without a brace or a semicolon. -/
def Flat (cs : List Char) : Prop := ∀ c ∈ cs, c ≠ '\x7b' ∧ c ≠ '\x7d' ∧ c ≠ ';'

instance : DecidablePred Flat := fun cs =>
  List.decidableBAll (fun c => c ≠ '\x7b' ∧ c ≠ '\x7d' ∧ c ≠ ';') cs

/-- Something on the top level of a style sheet. -/
inductive Item where
  /-- A selector that is not blank and does not begin with an at sign, and a block. -/
  | rule (selector body : List Char) (hflat : Flat selector)
      (hstart : ∃ c, (Text.trimLeft selector).head? = some c ∧ c ≠ '@') (hbody : Balanced body)
  /-- Blanks, an at sign and some more text, and a block. -/
  | conditional (indent lead body : List Char) (hindent : ∀ c ∈ indent, Text.isBlank c = true)
      (hflat : Flat lead) (hbody : Balanced body)
  /-- Text up to a semicolon. -/
  | statement (text : List Char) (hflat : Flat text)

/-- An item as it is written. -/
def Item.text : Item → List Char
  | .rule selector body _ _ _ => selector ++ '\x7b' :: (body ++ ['\x7d'])
  | .conditional indent lead body _ _ _ => indent ++ '@' :: lead ++ '\x7b' :: (body ++ ['\x7d'])
  | .statement text _ => text ++ [';']

/-- The rule that an item is, if it is one. -/
def Item.rule? : Item → Option Rule
  | .rule selector body _ _ _ => some ⟨String.ofList (Text.trim selector), String.ofList body⟩
  | .conditional _ _ _ _ _ _ => none
  | .statement _ _ => none

/-- A style sheet made of items. -/
def sheetOf (items : List Item) : String := String.ofList (items.flatMap Item.text)

/-- No block is open, and nothing stands in front of the next one. -/
def AtRest (css : String) : Prop :=
  (scan false css.toList).depth = 0 ∧ (scan false css.toList).lead = []

/-! ## Leads -/

/-- Trimming keeps the first character that is no blank. -/
theorem exists_trim {c : Char} {rest : List Char} (h : Text.trimLeft cs = c :: rest) :
    ∃ t, Text.trim cs = c :: t := by
  have hfirst := List.head?_dropWhile_not Text.isBlank cs
  rw [Text.trimLeft] at h
  rw [h] at hfirst
  have hc : Text.isBlank c = false := hfirst
  rw [Text.trim, Text.trimLeft, h, Text.trimRight, List.reverse_cons, List.dropWhile_append]
  split
  · rw [List.dropWhile_cons_of_neg (by rw [hc]; exact Bool.false_ne_true)]
    exact ⟨[], rfl⟩
  · rw [List.reverse_append]
    exact ⟨_, rfl⟩

theorem rule?_rule {selector : List Char} (body : List Char)
    (hstart : ∃ c, (Text.trimLeft selector).head? = some c ∧ c ≠ '@') :
    rule? selector body = some ⟨String.ofList (Text.trim selector), String.ofList body⟩ := by
  obtain ⟨c, hc, hat⟩ := hstart
  obtain ⟨rest, hrest⟩ := List.head?_eq_some_iff.mp hc
  obtain ⟨t, ht⟩ := exists_trim hrest
  rw [rule?, ht]
  split
  · next hnil => cases hnil
  · next hcons => exact absurd (List.cons.inj hcons).1 hat
  · rfl

theorem rule?_conditional {indent : List Char} (hindent : ∀ c ∈ indent, Text.isBlank c = true)
    (lead body : List Char) : rule? (indent ++ '@' :: lead) body = none := by
  have hleft : Text.trimLeft (indent ++ '@' :: lead) = '@' :: lead := by
    rw [Text.trimLeft, List.dropWhile_append_of_pos hindent]
    exact Text.trimLeft_cons_solid (by decide) lead
  obtain ⟨t, ht⟩ := exists_trim hleft
  rw [rule?, ht]
  rfl

/-! ## The search -/

/-- Text without braces is in front of the next block. -/
theorem rulesFrom_flat (h : Flat cs) (lead rest : List Char) :
    rulesFrom 0 lead [] (cs ++ rest) = rulesFrom 0 (cs.reverse ++ lead) [] rest := by
  induction cs generalizing lead with
  | nil => rfl
  | cons c r ih =>
      obtain ⟨⟨hopening, -, hsemicolon⟩, hr⟩ := List.forall_mem_cons.mp h
      rw [List.cons_append, rulesFrom, if_neg hopening, if_neg (by simp), if_neg (by simp),
        if_neg hsemicolon, ih hr, List.reverse_cons, List.append_assoc]
      rfl

/-- Text with balanced braces is in the body of the block that is open, and leaves it open. -/
theorem rulesFrom_balanced (h : Balanced cs) (depth : Nat) (lead body rest : List Char) :
    rulesFrom (depth + 1) lead body (cs ++ rest) =
      rulesFrom (depth + 1) lead (cs.reverse ++ body) rest := by
  induction h generalizing depth body rest with
  | nil => rfl
  | @solid c cs hopening hclosing _ ih =>
      rw [List.cons_append, rulesFrom, if_neg hopening, if_neg (by simp [hclosing]),
        if_pos (by simp), ih, List.reverse_cons, List.append_assoc]
      rfl
  | @block inner cs _ _ ihinner ih =>
      rw [List.cons_append, rulesFrom, if_pos rfl, if_neg (by omega), List.append_assoc, ihinner,
        List.cons_append, rulesFrom, if_neg (by decide), if_pos (by simp), if_neg (by omega),
        Nat.add_sub_cancel, ih]
      simp

/-- A block with some text in front of it. -/
theorem rulesFrom_block (hlead : Flat lead) (hbody : Balanced body) (rest : List Char) :
    rulesFrom 0 [] [] (lead ++ '\x7b' :: (body ++ '\x7d' :: rest)) =
      (Style.rule? lead body).toList ++ rulesFrom 0 [] [] rest := by
  rw [rulesFrom_flat hlead, rulesFrom, if_pos rfl, if_pos rfl, rulesFrom_balanced hbody,
    rulesFrom, if_neg (by decide), if_pos (by simp), if_pos rfl]
  simp

theorem Flat.conditional {indent : List Char} (hindent : ∀ c ∈ indent, Text.isBlank c = true)
    (h : Flat lead) : Flat (indent ++ '@' :: lead) := by
  intro c hc
  rcases List.mem_append.mp hc with hc | hc
  · have hblank := hindent c hc
    refine ⟨?_, ?_, ?_⟩ <;> rintro rfl <;> exact absurd hblank (by decide)
  · rcases List.mem_cons.mp hc with rfl | hc
    · decide
    · exact h c hc

/-- **The rule of an item is found,** and what follows is read as if the sheet began there. -/
theorem rulesFrom_item (item : Item) (rest : List Char) :
    rulesFrom 0 [] [] (item.text ++ rest) = item.rule?.toList ++ rulesFrom 0 [] [] rest := by
  cases item with
  | rule selector body hflat hstart hbody =>
      have htext : (Item.rule selector body hflat hstart hbody).text ++ rest =
          selector ++ '\x7b' :: (body ++ '\x7d' :: rest) := by simp [Item.text]
      rw [htext, rulesFrom_block hflat hbody, rule?_rule body hstart]
      rfl
  | conditional indent lead body hindent hflat hbody =>
      have htext : (Item.conditional indent lead body hindent hflat hbody).text ++ rest =
          indent ++ '@' :: lead ++ '\x7b' :: (body ++ '\x7d' :: rest) := by simp [Item.text]
      rw [htext, rulesFrom_block (hflat.conditional hindent) hbody,
        rule?_conditional hindent lead body]
      rfl
  | statement text hflat =>
      rw [Item.text, List.append_assoc, rulesFrom_flat hflat, List.singleton_append, rulesFrom,
        if_neg (by decide), if_neg (by simp), if_neg (by simp), if_pos rfl]
      rfl

/-! ## Rest -/

theorem scan_flat (h : Flat cs) {s : Scan} (hs : s.cursor = .outside) (hdepth : s.depth = 0) :
    cs.foldl (Scan.step false) s = { s with lead := s.lead ++ cs } := by
  induction cs generalizing s with
  | nil => rw [List.append_nil, List.foldl_nil]
  | cons c r ih =>
      obtain ⟨⟨hopening, -, hsemicolon⟩, hr⟩ := List.forall_mem_cons.mp h
      rw [List.foldl_cons, step_counting hs, if_neg hopening, if_neg (fun hc => hc.2 hdepth),
        if_neg (not_not_intro hdepth), if_neg hsemicolon]
      refine (ih hr (s := { s with lead := s.lead ++ [c] }) hs hdepth).trans ?_
      rw [List.append_assoc, List.singleton_append]

theorem scan_balanced (h : Balanced cs) {s : Scan} (hs : s.cursor = .outside)
    (hdepth : s.depth ≠ 0) :
    (cs.foldl (Scan.step false) s).cursor = .outside ∧
      (cs.foldl (Scan.step false) s).depth = s.depth := by
  induction h generalizing s with
  | nil => exact ⟨hs, rfl⟩
  | @solid c cs hopening hclosing _ ih =>
      rw [List.foldl_cons, step_counting hs, if_neg hopening, if_neg (fun hc => hclosing hc.1),
        if_pos hdepth]
      exact ih hs hdepth
  | @block inner cs _ _ ihinner ih =>
      rw [List.foldl_cons, step_counting hs, if_pos rfl, List.foldl_append, List.foldl_cons]
      obtain ⟨hcursor, hinside⟩ := ihinner (s := { s with depth := s.depth + 1 }) hs
        (Nat.succ_ne_zero _)
      generalize inner.foldl (Scan.step false) { s with depth := s.depth + 1 } = t at *
      have hpos : t.depth ≠ 0 := by
        rw [hinside]
        exact Nat.succ_ne_zero _
      rw [step_counting hcursor, if_neg (by decide), if_pos ⟨rfl, hpos⟩]
      obtain ⟨hcursor', hdepth'⟩ := ih (s := { t with depth := t.depth - 1, lead := [] }) hcursor
        (by rw [hinside]; exact hdepth)
      refine ⟨hcursor', hdepth'.trans ?_⟩
      show t.depth - 1 = s.depth
      rw [hinside]
      rfl

theorem scan_block (hlead : Flat lead) (hbody : Balanced body) :
    (lead ++ '\x7b' :: (body ++ ['\x7d'])).foldl (Scan.step false) {} = {} := by
  obtain ⟨hcursor, hdepth⟩ := scan_balanced hbody (s := ⟨.outside, 1, lead⟩) rfl Nat.one_ne_zero
  have hopened : (lead ++ ['\x7b']).foldl (Scan.step false) {} = ⟨.outside, 1, lead⟩ := by
    rw [List.foldl_append, scan_flat hlead rfl rfl]
    rfl
  rw [List.append_cons, List.foldl_append, hopened, List.foldl_append, List.foldl_cons,
    step_counting hcursor, if_neg (by decide), if_pos ⟨rfl, by rw [hdepth]; exact Nat.one_ne_zero⟩,
    hcursor, hdepth]
  rfl

/-- An item leaves nothing behind. -/
theorem scan_item (item : Item) : item.text.foldl (Scan.step false) {} = {} := by
  cases item with
  | rule selector body hflat _ hbody => exact scan_block hflat hbody
  | conditional indent lead body hindent hflat hbody =>
      exact scan_block (hflat.conditional hindent) hbody
  | statement text hflat =>
      rw [Item.text, List.foldl_append, scan_flat hflat rfl rfl, List.foldl_cons,
        step_counting rfl, if_neg (by decide), if_neg (by simp), if_neg (by simp), if_pos rfl]
      rfl

/-! ## Sheets -/

theorem atRest_sheetOf (items : List Item) : AtRest (sheetOf items) := by
  have hscan : (items.flatMap Item.text).foldl (Scan.step false) {} = {} := by
    induction items with
    | nil => rfl
    | cons item r ih => rw [List.flatMap_cons, List.foldl_append, scan_item, ih]
  rw [AtRest, sheetOf, String.toList_ofList, scan, hscan]
  exact ⟨rfl, rfl⟩

/-- A sheet of items has the rules among the items. -/
theorem rules_sheetOf (items : List Item) : rules (sheetOf items) = items.filterMap Item.rule? := by
  rw [rules, sheetOf, String.toList_ofList]
  induction items with
  | nil => rfl
  | cons item r ih =>
      rw [List.flatMap_cons, rulesFrom_item, ih]
      cases hitem : item.rule? with
      | none => rw [List.filterMap_cons_none hitem]; rfl
      | some rule => rw [List.filterMap_cons_some hitem]; rfl

/-- Where a sheet is at rest, the search begins anew. -/
theorem rules_append {a : String} (h : AtRest a) (b : String) :
    rules (a ++ b) = rules a ++ rules b := by
  have hstart : Counted [] 0 [] [] := .outside rfl rfl
  obtain ⟨depth, lead, body, hcounted, hsplit⟩ := exists_rulesFrom_append a.toList hstart
  rw [List.nil_append] at hcounted
  obtain rfl : depth = 0 := hcounted.depth.symm.trans h.1
  obtain ⟨rfl, hlead⟩ := hcounted.zero
  rw [h.2] at hlead
  obtain rfl : lead = [] := List.reverse_eq_nil_iff.mp hlead.symm
  rw [rules, String.toList_append, hsplit, rules, rules]

/-- **A style sheet has the rules that it is written with:** item by item, and in two parts where
nothing is open between them. -/
theorem rules_written :
    (∀ items : List Item,
      rules (sheetOf items) = items.filterMap Item.rule? ∧ AtRest (sheetOf items)) ∧
      ∀ a b : String, AtRest a → rules (a ++ b) = rules a ++ rules b :=
  ⟨fun items => ⟨rules_sheetOf items, atRest_sheetOf items⟩, fun _ b h => rules_append h b⟩

theorem balanced_inner : Balanced "i\x7b\x7d".toList :=
  .solid (by decide) (by decide) (.block .nil .nil)

/-- A statement, a rule with a block in its body, and a block that holds only on a condition. -/
def themeItems : List Item :=
  [.statement "@import 'a.css'".toList (by decide),
   .rule "\n:root ".toList "i\x7b\x7d".toList (by decide) ⟨':', by decide, by decide⟩ balanced_inner,
   .conditional ['\n'] "media print".toList "i\x7b\x7d".toList
     (List.forall_mem_singleton.mpr (by decide)) (by decide) balanced_inner]

/-- What follows the sheet is read as it stands, though a brace in it closes nothing. -/
theorem rules_written_themeItems :
    AtRest (sheetOf themeItems) ∧
      rules (sheetOf themeItems ++ "\x7dp\x7b--b:2\x7d") =
        [⟨":root", "i\x7b\x7d"⟩] ++ rules "\x7dp\x7b--b:2\x7d" := by
  obtain ⟨hrules, hrest⟩ := rules_written.1 themeItems
  have hitems : themeItems.filterMap Item.rule? = [⟨":root", "i\x7b\x7d"⟩] := by decide +kernel
  refine ⟨hrest, ?_⟩
  rw [rules_written.2 _ _ hrest, hrules, hitems]

end StickerPages.Style
