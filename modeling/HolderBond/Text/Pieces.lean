/-!
# Pieces between separators
-/

set_option autoImplicit false

namespace HolderBond.Text

/-- The pieces of a text between separators, empty ones included. -/
def piecesBetween (separator : Char) : List Char → List (List Char)
  | [] => [[]]
  | c :: rest =>
      if c == separator then [] :: piecesBetween separator rest
      else
        match piecesBetween separator rest with
        | piece :: pieces => (c :: piece) :: pieces
        | [] => [[c]]

end HolderBond.Text
