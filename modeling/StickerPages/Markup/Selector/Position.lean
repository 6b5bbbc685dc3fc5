import StickerPages.Markup.Selector

/-!
# Positions among siblings

A formula `a·k + b` means the places that it gives for `k = 0, 1, 2, …`. Before it is looked for among
`nodes` nodes, texts included, it has to come to stand among them: a rising formula must not begin at or
behind the last node, and a falling one has to give a place in front of the last node. A formula that
does not come to stand means no place.
-/

namespace StickerPages.Markup

namespace Formula

/-- `n` is `step · k + offset` for some `k ≥ 0`. -/
def hits (step offset : Int) (n : Nat) : Bool :=
  let d := (n : Int) - offset
  if step = 0 then d == 0 else d % step == 0 && 0 ≤ d / step

/-- A formula comes to stand among so many nodes. -/
def stands (step offset : Int) (nodes : Nat) : Bool :=
  if 0 < step then offset < nodes
  else if step = 0 then true
  -- the least place that a falling formula gives
  else 1 ≤ offset && (offset - 1) % step + 1 < nodes

/-- The place `rank` among siblings that are `nodes` nodes in all is meant. -/
def meets (f : Formula) (nodes rank : Nat) : Bool :=
  match f with
  | .once n => n == rank
  | .every step offset => stands step offset nodes && hits step offset rank

end Formula

end StickerPages.Markup
