/-!
# Search patterns

The pattern by which a statement searches for a term anywhere in a text. In a pattern `%` stands for any
text and `_` for any character, unless a backslash is before them.
-/

namespace ResourceCatalog.Database

/-- One character of the term, with a backslash before it if it has a meaning in patterns. -/
def escapedInPattern (c : Char) : List Char :=
  if c = '\\' ∨ c = '%' ∨ c = '_' then ['\\', c] else [c]

/-- The pattern of texts that contain the term. -/
def likePattern (term : List Char) : List Char := '%' :: term.flatMap escapedInPattern ++ ['%']

end ResourceCatalog.Database
