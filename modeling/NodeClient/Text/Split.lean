/-
  NodeClient.Text.Split
  ─────────────────────
  Cutting a text at a character, and putting the pieces together again.
-/
namespace NodeClient.Text

/-- The pieces between the occurrences of a character; there is always one more of them. -/
def splitAt (mark : Char) : List Char → List (List Char)
  | [] => [[]]
  | c :: rest =>
      if c = mark then [] :: splitAt mark rest
      else
        match splitAt mark rest with
        | piece :: pieces => (c :: piece) :: pieces
        | [] => [[c]]

/-- What stands before the first occurrence of a character, and what stands behind it. -/
def cut? (mark : Char) : List Char → Option (List Char × List Char)
  | [] => none
  | c :: rest =>
      if c = mark then some ([], rest)
      else (cut? mark rest).map fun (before, behind) => (c :: before, behind)

/-- The pieces with a character between them. -/
def joinWith (mark : Char) (pieces : List (List Char)) : List Char :=
  [mark].intercalate pieces

/-- What follows a text that has to come first. -/
def after? : (lead : List Char) → List Char → Option (List Char)
  | [], s => some s
  | c :: lead, d :: rest => if c = d then after? lead rest else none
  | _ :: _, [] => none

end NodeClient.Text
