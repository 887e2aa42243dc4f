/-!
Contract: lists of characters cut at a separator.

Owns: the pieces between separators, of which there is always one more than separators.
-/

set_option autoImplicit false

namespace ChainTx

/-- The pieces of a text between the separators. -/
def splitOnChar (separator : Char) : List Char → List (List Char)
  | [] => [[]]
  | char :: rest =>
      if char = separator then [] :: splitOnChar separator rest
      else match splitOnChar separator rest with
        | first :: others => (char :: first) :: others
        | [] => [[char]]

end ChainTx
