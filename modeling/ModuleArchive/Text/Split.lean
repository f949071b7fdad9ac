/-!
# Splitting and joining

Texts are cut at a separator character. Cutting `n` separators gives `n + 1` pieces, so the
empty text has one empty piece, and joining the pieces gives the text back.
-/
namespace ModuleArchive.Text

/-- The pieces of a text between the occurrences of `sep`. -/
def splitOn (sep : Char) : List Char → List (List Char)
  | [] => [[]]
  | c :: rest =>
    if c = sep then [] :: splitOn sep rest
    else
      match splitOn sep rest with
      | piece :: pieces => (c :: piece) :: pieces
      | [] => [[c]]

/-- Pieces with `sep` between them. -/
def joinWith (sep : Char) : List (List Char) → List Char
  | [] => []
  | [piece] => piece
  | piece :: pieces => piece ++ sep :: joinWith sep pieces

/-- The text before and after the first `sep`. -/
def splitFirst? (sep : Char) : List Char → Option (List Char × List Char)
  | [] => none
  | c :: rest =>
    if c = sep then some ([], rest)
    else (splitFirst? sep rest).map fun (before, after) => (c :: before, after)

def lastPiece (sep : Char) (text : List Char) : List Char :=
  (splitOn sep text).getLast?.getD []

theorem splitOn_ne_nil (sep : Char) (text : List Char) : splitOn sep text ≠ [] := by
  cases text with
  | nil => simp [splitOn]
  | cons c rest =>
    simp only [splitOn]
    split
    · simp
    · split <;> simp

theorem joinWith_cons_of_ne_nil (sep : Char) (piece : List Char) {pieces : List (List Char)}
    (h : pieces ≠ []) : joinWith sep (piece :: pieces) = piece ++ sep :: joinWith sep pieces := by
  cases pieces with
  | nil => exact absurd rfl h
  | cons _ _ => rfl

theorem joinWith_splitOn (sep : Char) (text : List Char) :
    joinWith sep (splitOn sep text) = text := by
  induction text with
  | nil => rfl
  | cons c rest ih =>
    have hne := splitOn_ne_nil sep rest
    simp only [splitOn]
    split
    · next h => rw [joinWith_cons_of_ne_nil _ _ hne, ih, h]; rfl
    · next h =>
      cases hs : splitOn sep rest with
      | nil => exact absurd hs hne
      | cons piece pieces =>
        rw [hs] at ih
        simp only
        cases pieces with
        | nil => simp [joinWith] at ih ⊢; exact ih
        | cons p ps => simp [joinWith] at ih ⊢; exact ih

end ModuleArchive.Text
