import StickerPages.Text.Blank

/-!
# Shortcodes

A sticker's shortcode is made of its group's tag and its own name: `:tag_name:`. The tag is the
group's name with every run of blanks made one underscore.
-/

namespace StickerPages.Catalog

/-- Every run of blanks made one underscore; `inRun` says that the character before was blank. -/
def joinBlanks (inRun : Bool) : List Char → List Char
  | [] => []
  | c :: r =>
    if Text.isBlank c then
      if inRun then joinBlanks true r else '_' :: joinBlanks true r
    else c :: joinBlanks false r

/-- The tag of a group of this name. -/
def tagOf (name : String) : String :=
  String.ofList (joinBlanks false name.toList)

/-- The shortcode of a sticker. -/
def shortcodeOf (tag name : String) : String :=
  ":" ++ tag ++ "_" ++ name ++ ":"

/-- An address that leaves the scheme open gets the secure one. -/
def completeUrl (url : String) : String :=
  if url.startsWith "//" then "https:" ++ url else url

/-- A tag holds no blanks. -/
theorem not_blank_of_mem_joinBlanks {c : Char} :
    ∀ {cs : List Char} {inRun : Bool}, c ∈ joinBlanks inRun cs → Text.isBlank c = false
  | [], _, h => by simp [joinBlanks] at h
  | d :: r, inRun, h => by
    unfold joinBlanks at h
    by_cases hd : Text.isBlank d = true
    · cases inRun with
      | true => exact not_blank_of_mem_joinBlanks (by simpa [hd] using h)
      | false =>
        simp only [hd, if_true, Bool.false_eq_true, if_false, List.mem_cons] at h
        rcases h with rfl | h
        · decide
        · exact not_blank_of_mem_joinBlanks h
    · simp only [hd, Bool.false_eq_true, if_false, List.mem_cons] at h
      rcases h with rfl | h
      · simpa using hd
      · exact not_blank_of_mem_joinBlanks h

end StickerPages.Catalog
