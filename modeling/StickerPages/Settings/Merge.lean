import StickerPages.Value

/-!
# Laying one configuration over another

Merging lays a map over a base. Where both hold a map the two are merged in turn; anywhere else what
lies on top hides what lies below. Keys of the base keep their places, new keys follow in their order.
-/

namespace StickerPages.Settings

mutual
/-- What stands at a key after `v` has been laid over what stood there. -/
def layOver (below : Option Value) : Value → Value
  | .map fs =>
    match below with
    | some (.map es) => .map (merge es fs)
    | _ => .map fs
  | v => v

/-- A map laid over a base. -/
def merge (es : Entries) : List (Scalar × Value) → Entries
  | [] => es
  | (k, v) :: r => merge (Pairs.put es k (layOver (es.lookup k) v)) r
end

/-- A value laid over another. Laying nothing over anything changes nothing; otherwise both have to be
maps. -/
def mergeValues? (base top : Value) : Option Value :=
  match base, top with
  | base, .map [] => some base
  | .map es, .map fs => some (.map (merge es fs))
  | _, _ => none

end StickerPages.Settings
