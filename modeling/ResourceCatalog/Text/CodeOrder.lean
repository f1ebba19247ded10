/-! The order of texts by code point: the first difference decides, and a front of a text comes before it. -/

namespace ResourceCatalog.Text

def codeOrder : List Char → List Char → Ordering
  | [], [] => .eq
  | [], _ :: _ => .lt
  | _ :: _, [] => .gt
  | a :: as, b :: bs => (compare a.toNat b.toNat).then (codeOrder as bs)

end ResourceCatalog.Text
