import Mathlib.Data.List.Induction
import Mathlib.Data.List.Infix
import StickerPages.Proofs.Restyling

/-!
# Blocks that are counted and blocks that are read

Rules are found in a style sheet by counting braces. A brace in quotes is counted too, and so is a
semicolon or a comma in front of a block; the declarations of a block are cut with an eye on quotes
after that. A *mindful* reading keeps that eye open from the first character to the last, and says
what stands in which block.

Where the two readings agree on when no block is open, they find the same blocks
(`TopBlock.aligned`), and the custom properties of a page come from blocks that speak of the root,
or from the root's own style. Blocks inside such a block are in its text, though, and the text is
cut at every semicolon. So a declaration in an inner block is taken as well, if it is not the first
one there.
-/

namespace StickerPages.Style

open Markup

/-! ## Two readings of a style sheet -/

/-- Where a reading of a style sheet stands. -/
structure Scan where
  /-- What is open besides blocks, as far as the reading minds it. -/
  cursor : Cursor := .outside
  /-- Blocks open. -/
  depth : Nat := 0
  /-- The text in front of a block. -/
  lead : List Char := []
deriving DecidableEq

/-- Reads one character. Nothing has a meaning inside quotes and parentheses or behind a backslash;
a reading that is not mindful takes no notice of them. -/
def Scan.step (mindful : Bool) (s : Scan) (c : Char) : Scan :=
  let t := if mindful then { s with cursor := (s.cursor.advance ';' c).getD s.cursor } else s
  if s.cursor = .outside ∧ c = '\x7b' then { t with depth := s.depth + 1 }
  else if s.cursor = .outside ∧ c = '\x7d' ∧ s.depth ≠ 0 then
    { t with depth := s.depth - 1, lead := [] }
  else if s.depth ≠ 0 then t
  else if s.cursor = .outside ∧ c = ';' then { t with lead := [] }
  else { t with lead := s.lead ++ [c] }

/-- Reads a text. -/
def scan (mindful : Bool) (cs : List Char) : Scan := cs.foldl (Scan.step mindful) {}

/-- A block that stands in no other block, by a reading: what stands in front of it, and what is in
it. -/
def TopBlock (mindful : Bool) (text lead body : List Char) : Prop :=
  ∃ front rest, text = front ++ '\x7b' :: (body ++ '\x7d' :: rest) ∧
    (scan mindful front).depth = 0 ∧ (scan mindful front).lead = lead ∧
    (∀ inner, inner <+: body → (scan mindful (front ++ '\x7b' :: inner)).depth ≠ 0) ∧
    (scan mindful (front ++ '\x7b' :: (body ++ ['\x7d']))).depth = 0

variable {text lead body front cs : List Char} {c : Char} {mindful : Bool}

theorem scan_concat (mindful : Bool) (cs : List Char) (c : Char) :
    scan mindful (cs ++ [c]) = (scan mindful cs).step mindful c := by
  rw [scan, List.foldl_concat, scan]

/-! ## Counting -/

theorem cursor_scan (cs : List Char) : (scan false cs).cursor = .outside := by
  induction cs using List.reverseRecOn with
  | nil => rfl
  | append_singleton r c ih =>
      rw [scan_concat, Scan.step, if_neg Bool.false_ne_true]
      split
      · exact ih
      · split
        · exact ih
        · split
          · exact ih
          · split <;> exact ih

/-- To count is to mind nothing but braces, and semicolons outside of them. -/
theorem step_counting {s : Scan} (hs : s.cursor = .outside) (c : Char) :
    s.step false c =
      if c = '\x7b' then { s with depth := s.depth + 1 }
      else if c = '\x7d' ∧ s.depth ≠ 0 then { s with depth := s.depth - 1, lead := [] }
      else if s.depth ≠ 0 then s
      else if c = ';' then { s with lead := [] }
      else { s with lead := s.lead ++ [c] } := by
  rw [Scan.step, if_neg Bool.false_ne_true]
  simp only [hs, true_and]

theorem scan_false_concat (cs : List Char) (c : Char) :
    scan false (cs ++ [c]) =
      let s := scan false cs
      if c = '\x7b' then { s with depth := s.depth + 1 }
      else if c = '\x7d' ∧ s.depth ≠ 0 then { s with depth := s.depth - 1, lead := [] }
      else if s.depth ≠ 0 then s
      else if c = ';' then { s with lead := [] }
      else { s with lead := s.lead ++ [c] } := by
  rw [scan_concat, step_counting (cursor_scan cs)]

/-- What a search for rules has in hand, by what it has counted so far. -/
inductive Counted : List Char → Nat → List Char → List Char → Prop
  | outside {front lead : List Char} (hdepth : (scan false front).depth = 0)
      (hlead : (scan false front).lead = lead.reverse) : Counted front 0 lead []
  | inside {outer lead body : List Char} {depth : Nat} (hdepth : (scan false outer).depth = 0)
      (hlead : (scan false outer).lead = lead.reverse)
      (hinside : ∀ inner, inner <+: body.reverse →
        (scan false (outer ++ '\x7b' :: inner)).depth ≠ 0)
      (hcount : (scan false (outer ++ '\x7b' :: body.reverse)).depth = depth) :
      Counted (outer ++ '\x7b' :: body.reverse) depth lead body

theorem Counted.depth {depth : Nat} (h : Counted front depth lead body) :
    (scan false front).depth = depth := by
  cases h with
  | outside hdepth _ => exact hdepth
  | inside _ _ _ hcount => exact hcount

theorem Counted.zero (h : Counted front 0 lead body) :
    body = [] ∧ (scan false front).lead = lead.reverse := by
  cases h with
  | outside _ hlead => exact ⟨rfl, hlead⟩
  | inside _ _ hinside hcount => exact absurd hcount (hinside _ List.prefix_rfl)

/-- A block goes on as long as it is open. -/
theorem Counted.goOn {depth next : Nat} (h : Counted front depth lead body) (hopen : depth ≠ 0)
    (hcount : (scan false (front ++ [c])).depth = next) (hnext : next ≠ 0) :
    Counted (front ++ [c]) next lead (c :: body) := by
  cases h with
  | outside => exact absurd rfl hopen
  | @inside outer _ _ _ hdepth hlead hinside _ =>
      have hfront : outer ++ '\x7b' :: body.reverse ++ [c] =
          outer ++ '\x7b' :: (c :: body).reverse := by simp
      rw [hfront] at hcount ⊢
      refine .inside hdepth hlead (fun inner hinner => ?_) hcount
      rw [List.reverse_cons, List.prefix_concat_iff] at hinner
      rcases hinner with rfl | hinner
      · rw [← List.reverse_cons, hcount]
        exact hnext
      · exact hinside inner hinner

/-- An opening brace begins a block, or it is in one. -/
theorem Counted.opening {depth : Nat} (h : Counted front depth lead body) :
    Counted (front ++ ['\x7b']) (depth + 1) lead (if depth = 0 then body else '\x7b' :: body) := by
  have hstep := scan_false_concat front '\x7b'
  dsimp only at hstep
  rw [if_pos rfl, h.depth] at hstep
  split
  · next hzero =>
    subst hzero
    obtain ⟨rfl, hlead⟩ := h.zero
    have hopen : (scan false (front ++ ['\x7b'])).depth = 1 := congrArg Scan.depth hstep
    have hfirst : Counted (front ++ '\x7b' :: [].reverse) 1 lead [] := by
      refine .inside h.depth hlead (fun inner hinner => ?_) hopen
      obtain rfl : inner = [] := by simpa using hinner
      simp [hopen]
    exact hfirst
  · next hinside => exact h.goOn hinside (congrArg Scan.depth hstep) (Nat.succ_ne_zero _)

/-- The closing brace that brings the count down closes a block, and what follows it begins anew. -/
theorem Counted.closing (h : Counted front 1 lead body) :
    Counted (front ++ ['\x7d']) 0 [] [] ∧
      ∀ rest, TopBlock false (front ++ '\x7d' :: rest) lead.reverse body.reverse := by
  have hstep := scan_false_concat front '\x7d'
  dsimp only at hstep
  rw [if_neg (by decide), h.depth, if_pos (by decide)] at hstep
  have hnone : (scan false (front ++ ['\x7d'])).lead = [].reverse := congrArg Scan.lead hstep
  refine ⟨.outside (congrArg Scan.depth hstep) hnone, fun rest => ?_⟩
  cases h with
  | @inside outer _ _ _ hdepth hlead hinside _ =>
      refine ⟨outer, rest, by simp, hdepth, hlead, hinside, ?_⟩
      rw [← List.cons_append, ← List.append_assoc]
      exact congrArg Scan.depth hstep

/-- Outside of blocks a semicolon ends the lead, and every other character belongs to it. -/
theorem Counted.between (h : Counted front 0 lead body) (hopening : c ≠ '\x7b') :
    Counted (front ++ [c]) 0 (if c = ';' then [] else c :: lead) body := by
  obtain ⟨rfl, hlead⟩ := h.zero
  have hstep := scan_false_concat front c
  dsimp only at hstep
  rw [if_neg hopening, h.depth, if_neg (by simp), if_neg (by simp)] at hstep
  split
  · next hsemicolon =>
    rw [if_pos hsemicolon] at hstep
    have hnone : (scan false (front ++ [c])).lead = [].reverse := congrArg Scan.lead hstep
    exact .outside (congrArg Scan.depth hstep) hnone
  · next hsemicolon =>
    rw [if_neg hsemicolon] at hstep
    refine .outside (congrArg Scan.depth hstep) ?_
    rw [hstep, List.reverse_cons, ← hlead]

/-- **One character more:** what the search finds with it, and what it has in hand then. Every rule
that it finds is a block that was counted. -/
theorem Counted.step {depth : Nat} (h : Counted front depth lead body) (c : Char) :
    ∃ found depth' lead' body', Counted (front ++ [c]) depth' lead' body' ∧
      (∀ r, rulesFrom depth lead body (c :: r) = found ++ rulesFrom depth' lead' body' r) ∧
      ∀ rule ∈ found, ∀ rest, ∃ lead body,
        TopBlock false (front ++ c :: rest) lead body ∧ rule? lead body = some rule := by
  by_cases hopening : c = '\x7b'
  · subst hopening
    exact ⟨[], _, _, _, h.opening, fun r => by rw [rulesFrom, if_pos rfl]; rfl,
      List.forall_mem_nil _⟩
  by_cases hdepth : depth = 0
  · subst hdepth
    refine ⟨[], _, _, _, h.between hopening, fun r => ?_, List.forall_mem_nil _⟩
    rw [rulesFrom, if_neg hopening, if_neg (by simp), if_neg (by simp), List.nil_append]
    split <;> rfl
  by_cases hclosing : c = '\x7d'
  · subst hclosing
    by_cases hlast : depth = 1
    · subst hlast
      refine ⟨(rule? lead.reverse body.reverse).toList, _, _, _, h.closing.1, fun r => ?_,
        fun rule hrule rest => ⟨_, _, h.closing.2 rest, Option.mem_toList.mp hrule⟩⟩
      rw [rulesFrom, if_neg hopening, if_pos (by simp), if_pos rfl]
    · have hnext : (scan false (front ++ ['\x7d'])).depth = depth - 1 := by
        rw [scan_false_concat, if_neg hopening, h.depth, if_pos ⟨rfl, hdepth⟩]
      refine ⟨[], _, _, _, h.goOn hdepth hnext (by omega), fun r => ?_, List.forall_mem_nil _⟩
      rw [rulesFrom, if_neg hopening, if_pos (by simpa using hdepth), if_neg hlast, List.nil_append]
  · have hnext : (scan false (front ++ [c])).depth = depth := by
      rw [scan_false_concat, if_neg hopening, h.depth, if_neg fun hc => hclosing hc.1,
        if_pos hdepth, h.depth]
    refine ⟨[], _, _, _, h.goOn hdepth hnext hdepth, fun r => ?_, List.forall_mem_nil _⟩
    rw [rulesFrom, if_neg hopening, if_neg (by simp [hclosing]), if_pos (by simpa using hdepth),
      List.nil_append]

/-- **Every rule that is found is a block that was counted.** -/
theorem exists_topBlock_of_mem_rulesFrom {rule : Rule} (r : List Char) :
    ∀ {front lead body : List Char} {depth : Nat}, Counted front depth lead body →
      rule ∈ rulesFrom depth lead body r →
      ∃ lead body, TopBlock false (front ++ r) lead body ∧ rule? lead body = some rule := by
  induction r with
  | nil =>
      intro front lead body depth _ h
      cases h
  | cons c r ih =>
      intro front lead body depth hcounted h
      obtain ⟨found, _, _, _, hnext, hstep, hfound⟩ := hcounted.step c
      rw [hstep] at h
      rcases List.mem_append.mp h with h | h
      · exact hfound rule h r
      · rw [List.append_cons]
        exact ih hnext h

/-- What is found behind some text follows what is found in it. -/
theorem exists_rulesFrom_append (x : List Char) :
    ∀ {front lead body : List Char} {depth : Nat}, Counted front depth lead body →
      ∃ depth' lead' body', Counted (front ++ x) depth' lead' body' ∧
        ∀ y, rulesFrom depth lead body (x ++ y) =
          rulesFrom depth lead body x ++ rulesFrom depth' lead' body' y := by
  induction x with
  | nil =>
      intro front lead body depth hcounted
      exact ⟨depth, lead, body, by rwa [List.append_nil], fun y => rfl⟩
  | cons c x ih =>
      intro front lead body depth hcounted
      obtain ⟨found, _, _, _, hnext, hstep, -⟩ := hcounted.step c
      obtain ⟨depth', lead', body', hlast, hrest⟩ := ih hnext
      rw [List.append_cons]
      refine ⟨depth', lead', body', hlast, fun y => ?_⟩
      rw [List.cons_append, hstep, hrest, hstep, List.append_assoc]

/-! ## Rules that speak of the root -/

/-- A selector in front of a block names the root, read with an eye on quotes and parentheses. -/
def namesRoot (lead : List Char) : Bool :=
  (Text.trim lead).head? != some '@' &&
    (splitTopLevel ',' lead).any fun s => rootSelectors.contains (String.ofList (Text.trim s))

/-- A rule with this lead is taken for one that speaks of the root. -/
def passesForRoot (lead : List Char) : Bool :=
  (rule? lead []).any fun rule => selectsRoot rule.selector

theorem rule?_eq_some {rule : Rule} (h : rule? lead body = some rule) :
    passesForRoot lead = selectsRoot rule.selector ∧ rule.body.toList = body := by
  unfold passesForRoot
  unfold rule? at h ⊢
  split at h
  · cases h
  · cases h
  · cases h
    exact ⟨rfl, String.toList_ofList⟩

/-- A style sheet without its comments. There are none in quotes, and one that is not closed goes on
to the end. -/
def withoutComments (s : Cursor) : List Char → List Char
  | [] => []
  | c :: r =>
    if s.quote.isNone && !s.escaped && c == '/' && r.head? == some '*' then
      match _h : afterComment? r.tail with
      | some r' => withoutComments s r'
      | none => []
    else c :: withoutComments ((s.advance ';' c).getD s) r
termination_by cs => cs.length
decreasing_by
  · have := afterComment?_length ‹_›
    simp at this ⊢
    omega
  · simp

/-- On this text both readings open and close the same blocks, and of the blocks that are taken for
the root's each one is. -/
structure Aligned (text : List Char) : Prop where
  depth : ∀ front, front <+: text → ((scan false front).depth = 0 ↔ (scan true front).depth = 0)
  root : ∀ front, front ++ ['\x7b'] <+: text → (scan true front).depth = 0 →
    passesForRoot (scan false front).lead = true → namesRoot (scan true front).lead = true

instance (text : List Char) : Decidable (Aligned text) :=
  decidable_of_iff
    (∀ front ∈ text.inits, ((scan false front).depth = 0 ↔ (scan true front).depth = 0) ∧
      (front ++ ['\x7b'] <+: text → (scan true front).depth = 0 →
        passesForRoot (scan false front).lead = true → namesRoot (scan true front).lead = true))
    ⟨fun h => ⟨fun front hfront => (h front ((List.mem_inits ..).mpr hfront)).1,
        fun front hfront => (h front ((List.mem_inits ..).mpr
          ((List.prefix_append ..).trans hfront))).2 hfront⟩,
      fun h front hfront => ⟨h.depth front ((List.mem_inits ..).mp hfront), h.root front⟩⟩

/-- **Blocks that are counted are blocks,** where the two readings agree on when none is open. -/
theorem TopBlock.aligned (h : Aligned text) (hblock : TopBlock false text lead body)
    (hlead : passesForRoot lead = true) :
    ∃ lead, TopBlock true text lead body ∧ namesRoot lead = true := by
  obtain ⟨front, rest, htext, hdepth, rfl, hinside, hclose⟩ := hblock
  have hbegins {more : List Char} (hmore : more <+: body ++ '\x7d' :: rest) :
      front ++ '\x7b' :: more <+: text := by
    rw [htext, List.prefix_append_right_inj, List.cons_prefix_cons]
    exact ⟨rfl, hmore⟩
  have houter := (h.depth front (htext ▸ List.prefix_append ..)).mp hdepth
  refine ⟨_, ⟨front, rest, htext, houter, rfl, fun inner hinner hzero => ?_, ?_⟩,
    h.root front (hbegins List.nil_prefix) houter hlead⟩
  · exact hinside inner hinner
      ((h.depth _ (hbegins (hinner.trans (List.prefix_append ..)))).mpr hzero)
  · exact (h.depth _ (hbegins ⟨rest, by simp⟩)).mp hclose

/-! ## Statements of a block -/

/-- A statement of a block, and what stands in the block in front of it. -/
def IsStatement (body before part : List Char) : Prop :=
  ∃ front back, splitTopLevel ';' body = front ++ part :: back ∧
    before = front.flatMap (· ++ [';'])

/-- A statement stands in the block itself, and there is no brace in its name. -/
def Direct (before part : List Char) : Prop :=
  (scan true before).depth = 0 ∧ '\x7b' ∉ rawName part ∧ '\x7d' ∉ rawName part

/-- A statement stands behind a semicolon of an inner block, or its name runs over a brace. -/
def Buried (before part : List Char) : Prop :=
  (∃ inner, before = inner ++ [';'] ∧ (scan true inner).depth ≠ 0) ∨
    '\x7b' ∈ rawName part ∨ '\x7d' ∈ rawName part

/-- A semicolon opens no block and closes none. -/
theorem depth_scan_semicolon (mindful : Bool) (cs : List Char) :
    (scan mindful (cs ++ [';'])).depth = (scan mindful cs).depth := by
  rw [scan_concat, Scan.step, if_neg (by simp), if_neg (by simp)]
  cases mindful <;> split <;> (try split) <;> simp_all

/-- The first statement of an inner block is read with what stands in front of the block. -/
theorem direct_or_buried {before part : List Char} (h : IsStatement body before part) :
    Direct before part ∨ Buried before part := by
  obtain ⟨front, back, -, rfl⟩ := h
  by_cases hname : '\x7b' ∈ rawName part ∨ '\x7d' ∈ rawName part
  · exact .inr (.inr hname)
  · by_cases hdepth : (scan true (front.flatMap (· ++ [';']))).depth = 0
    · exact .inl ⟨hdepth, not_or.mp hname⟩
    · rcases List.eq_nil_or_concat front with rfl | ⟨front, last, rfl⟩
      · exact absurd rfl hdepth
      · rw [List.concat_eq_append, List.flatMap_append, List.flatMap_singleton,
          ← List.append_assoc] at hdepth ⊢
        rw [depth_scan_semicolon] at hdepth
        exact .inr (.inl ⟨_, rfl, hdepth⟩)

/-! ## A page -/

/-- The style sheets of a page. -/
def sheets (page : Node) : List Node := page.descendants.filter fun n => n.isNamed "style"

/-- The text of a style sheet, comments included. -/
def source (sheet : Node) : List Char :=
  (String.join (sheet.children.map fun n =>
    match n with
    | .leaf _ _ s => s
    | n => n.markup)).toList

/-- A declaration is written in a block for the root that stands in no other block, in a statement
of such a kind. -/
def Declares (page : Node) (kind : List Char → List Char → Prop) (d : String × String) : Prop :=
  ∃ sheet ∈ sheets page, ∃ lead body before part,
    TopBlock true (withoutComments .outside (source sheet)) lead body ∧ namesRoot lead = true ∧
      IsStatement body before part ∧ declaration? part = some d ∧ kind before part

theorem exists_of_mem_sheetDeclarations {page : Node} {d : String × String}
    (h : d ∈ sheetDeclarations page) :
    ∃ sheet ∈ sheets page, ∃ rule ∈ rules (String.ofList (stripComments (source sheet))),
      selectsRoot rule.selector = true ∧ d ∈ parse rule.body := by
  obtain ⟨sheet, hsheet, h⟩ := List.mem_flatMap.mp h
  obtain ⟨rule, hrule, h⟩ := List.mem_flatMap.mp h
  split at h
  · next hroot => exact ⟨sheet, hsheet, rule, hrule, hroot, h⟩
  · cases h

/-- **A custom property of a page is written in its root's own style, or in a block for the root
that stands in no other block,** if on its style sheets braces can be counted. Inside of such a
block a declaration in an inner block is taken too, behind the first semicolon there. -/
theorem customProperties_origin {page : Node}
    (hcomments : ∀ sheet ∈ sheets page,
      stripComments (source sheet) = withoutComments .outside (source sheet))
    (haligned : ∀ sheet ∈ sheets page, Aligned (withoutComments .outside (source sheet)))
    {d : String × String} (hd : d ∈ customProperties page) :
    d ∈ rootDeclarations page ∨ Declares page Direct d ∨ Declares page Buried d := by
  have hkeys : (([] : Declarations).map (·.1)).Nodup := List.nodup_nil
  rcases Pairs.mem_putAll _ hkeys hd with hd | ⟨hd, -⟩
  · rcases List.mem_append.mp (List.mem_filter.mp hd).1 with hd | hd
    · obtain ⟨sheet, hsheet, rule, hrule, hroot, hd⟩ := exists_of_mem_sheetDeclarations hd
      rw [rules, String.toList_ofList] at hrule
      have hstart : Counted [] 0 [] [] := .outside rfl rfl
      obtain ⟨lead, body, hblock, heq⟩ := exists_topBlock_of_mem_rulesFrom _ hstart hrule
      obtain ⟨hpasses, hbody⟩ := rule?_eq_some heq
      rw [← hpasses] at hroot
      rw [hcomments sheet hsheet] at hblock
      obtain ⟨lead, hblock, hnames⟩ := hblock.aligned (haligned sheet hsheet) hroot
      obtain ⟨part, hpart, hread⟩ := exists_part_of_mem_parse hd
      obtain ⟨front, back, hsplit⟩ := List.append_of_mem hpart
      have hstatement : IsStatement body _ part := ⟨front, back, hbody ▸ hsplit, rfl⟩
      have hdeclares {kind} (hkind : kind _ part) : Declares page kind d :=
        ⟨sheet, hsheet, lead, body, _, part, hblock, hnames, hstatement, hread, hkind⟩
      exact .inr ((direct_or_buried hstatement).imp hdeclares hdeclares)
    · exact .inl hd
  · cases hd

/-- A page of one style sheet. -/
def pageOf (css : String) : Node :=
  .element 0 ⟨rootName, []⟩ [.element 1 ⟨"style", []⟩ [.leaf 2 .stylesheet css]]

/-- A semicolon and braces in quotes, a block that holds only on a condition, and an inner block. -/
def quotedSheet : String :=
  "@import 'a;b';@media p\x7b:root\x7b--a:9\x7d\x7d" ++
    "i\x7bc:'\x7b\x7d'\x7d:root,i\x7b--a:1;b\x7b--a:2\x7d\x7d"

theorem customProperties_origin_quotedSheet :
    (∀ sheet ∈ sheets (pageOf quotedSheet),
      stripComments (source sheet) = withoutComments .outside (source sheet)) ∧
      (∀ sheet ∈ sheets (pageOf quotedSheet), Aligned (withoutComments .outside (source sheet))) ∧
      ("--a", "1") ∈ customProperties (pageOf quotedSheet) ∧
      (("--a", "1") ∈ rootDeclarations (pageOf quotedSheet) ∨
        Declares (pageOf quotedSheet) Direct ("--a", "1") ∨
        Declares (pageOf quotedSheet) Buried ("--a", "1")) := by
  have hcomments : ∀ sheet ∈ sheets (pageOf quotedSheet),
      stripComments (source sheet) = withoutComments .outside (source sheet) := by decide +kernel
  have haligned : ∀ sheet ∈ sheets (pageOf quotedSheet),
      Aligned (withoutComments .outside (source sheet)) := by decide +kernel
  have hmem : ("--a", "1") ∈ customProperties (pageOf quotedSheet) := by decide +kernel
  exact ⟨hcomments, haligned, hmem, customProperties_origin hcomments haligned hmem⟩

/-- An inner block in a block for the root. -/
def nestedSheet : String := ":root\x7ba\x7bb:c;--x:1;\x7d\x7d"

/-- Its one block that stands in no other. -/
theorem body_of_topBlock_nestedSheet (h : TopBlock true nestedSheet.toList lead body) :
    body = "a\x7bb:c;--x:1;\x7d".toList := by
  obtain ⟨front, rest, htext, hdepth, -, -, hclose⟩ := h
  have hfronts : ∀ front ∈ nestedSheet.toList.inits, (scan true front).depth = 0 →
      front ++ ['\x7b'] <+: nestedSheet.toList → front = ":root".toList := by decide +kernel
  obtain rfl := hfronts front ((List.mem_inits ..).mpr ⟨_, htext.symm⟩) hdepth
    ⟨body ++ '\x7d' :: rest, by rw [htext]; simp⟩
  have hinner : ":root\x7b".toList ++ "a\x7bb:c;--x:1;\x7d\x7d".toList =
      ":root\x7b".toList ++ (body ++ '\x7d' :: rest) := htext
  have hrest := List.append_cancel_left hinner
  have hbodies : ∀ body ∈ "a\x7bb:c;--x:1;\x7d\x7d".toList.inits,
      body ++ ['\x7d'] <+: "a\x7bb:c;--x:1;\x7d\x7d".toList →
      (scan true (":root".toList ++ '\x7b' :: (body ++ ['\x7d']))).depth = 0 →
        body = "a\x7bb:c;--x:1;\x7d".toList := by decide +kernel
  exact hbodies body ((List.mem_inits ..).mpr ⟨_, hrest.symm⟩) ⟨rest, by rw [hrest]; simp⟩ hclose

/-- A declaration behind a semicolon in an inner block is taken. -/
theorem customProperties_origin_nestedSheet :
    ¬∀ (page : Node) (d : String × String), d ∈ customProperties page →
      d ∈ rootDeclarations page ∨ Declares page Direct d := by
  intro h
  have hmem : ("--x", "1") ∈ customProperties (pageOf nestedSheet) := by decide +kernel
  rcases h _ _ hmem with hroot | hdirect
  · exact absurd hroot (by decide +kernel)
  · obtain ⟨sheet, hsheet, lead, body, before, part, hblock, -, hstatement, hread, hkind⟩ := hdirect
    have hsource : ∀ sheet ∈ sheets (pageOf nestedSheet),
        withoutComments .outside (source sheet) = nestedSheet.toList := by decide +kernel
    rw [hsource sheet hsheet] at hblock
    obtain rfl := body_of_topBlock_nestedSheet hblock
    obtain ⟨front, back, hsplit, rfl⟩ := hstatement
    have hparts : splitTopLevel ';' "a\x7bb:c;--x:1;\x7d".toList =
        ["a\x7bb:c".toList, "--x:1".toList, "\x7d".toList] := by decide +kernel
    rw [hparts] at hsplit
    -- the declaration is the second statement, and stands in the inner block
    match front, hsplit with
    | [], hsplit =>
        obtain rfl := (List.cons.inj hsplit).1
        exact absurd hread (by decide +kernel)
    | [a], hsplit =>
        obtain rfl := (List.cons.inj hsplit).1
        exact absurd hkind.1 (by decide +kernel)
    | [a, b], hsplit =>
        obtain rfl := (List.cons.inj (List.cons.inj (List.cons.inj hsplit).2).2).1
        exact absurd hread (by decide +kernel)
    | _ :: _ :: _ :: _, hsplit => simp at hsplit

end StickerPages.Style
