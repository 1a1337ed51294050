/-
  NodeClient.Scalar.Order
  ───────────────────────
  Sorting values and dropping repeated ones, and the greatest of several values.
-/
namespace NodeClient

variable {α : Type} [LT α] [DecidableEq α] [∀ a b : α, Decidable (a < b)]

/-- Inserts a value into an ascending list unless it is there. -/
def insertDistinct (a : α) : List α → List α
  | [] => [a]
  | b :: rest =>
      if a < b then a :: b :: rest
      else if a = b then b :: rest
      else b :: insertDistinct a rest

/-- The different values of a list in ascending order. -/
def sortDistinct (as : List α) : List α := as.foldr insertDistinct []

/-- The greater of two values. -/
def greater (a b : α) : α := if a < b then b else a

/-- The greatest value of a list, if there is any in it. -/
def greatest? : List α → Option α
  | [] => none
  | a :: rest => some (rest.foldl greater a)

end NodeClient
