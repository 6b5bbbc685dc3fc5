import StickerPages.Catalog.Basic

/-!
# The built-in catalog

What a page is offered when no catalog can be had: two groups of texts.
-/

namespace StickerPages.Catalog

/-- Emoji. -/
def emoji : List String :=
  ["😀", "😂", "😍", "🤔", "😎", "😢", "😡", "👍", "👎", "❤️", "🎉", "🔥", "✨", "💯", "🤣", "😊", "🥰", "😘",
   "🤗", "🤩", "😏", "😒", "🙄", "😴"]

/-- Faces made of letters and signs. -/
def faces : List String :=
  ["(⌐■_■)", "( ´_ゝ`)", "( ͡° ͜ʖ ͡°)", "(╯°□°）╯︵ ┻━┻", "┬─┬ノ( º _ ºノ)", "¯\\_(ツ)_/¯",
   "(ノಠ益ಠ)ノ彡┻━┻", "(づ｡◕‿‿◕｡)づ", "(｡◕‿◕｡)", "(╥﹏╥)", "(ಥ_ಥ)", "(◕‿◕)", "(｀・ω・´)", "(´・ω・`)",
   "(=^･ω･^=)", "(●'◡'●)"]

/-- A group of texts. -/
def groupOfTexts (name : String) (texts : List String) : Group :=
  { name, tag := name, stickers := texts.map fun t => .ofText t t }

/-- The built-in groups. -/
def builtin : List Group :=
  [groupOfTexts "Emoji" emoji, groupOfTexts "颜文字" faces]

end StickerPages.Catalog
