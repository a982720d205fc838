/-!
A text cut at a separator. There is always one piece more than there are separators.
-/

namespace Resumption.Text

/-- The pieces of a text between its separators. -/
def pieces (separator : Char) : List Char → List (List Char)
  | [] => [[]]
  | c :: rest =>
    if c = separator then [] :: pieces separator rest
    else match pieces separator rest with
      | [] => [[c]]
      | piece :: others => (c :: piece) :: others

end Resumption.Text
