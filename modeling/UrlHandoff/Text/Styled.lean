import UrlHandoff.Text.Terminal

namespace UrlHandoff.Text

inductive Style
  | plain
  | alarm
  | heading
  | literal
  | right
  | wrong
  deriving DecidableEq, Repr

def Style.attributes : Style → List Nat
  | plain => []
  | alarm => [1, 31]
  | heading => [1, 4]
  | literal => [1]
  | right => [32]
  | wrong => [33]

structure Piece where
  style : Style
  text : String
  deriving DecidableEq, Repr

abbrev Styled := List Piece

namespace Styled

def ofText (s : String) : Styled := [⟨.plain, s⟩]

def attributeText (number : Nat) : String := "\x1b[" ++ toString number ++ "m"

def colouredPiece (piece : Piece) : String :=
  match piece.style.attributes with
  | [] => piece.text
  | numbers => String.join (numbers.map attributeText) ++ piece.text ++ attributeText 0

def coloured (styled : Styled) : String := String.join (styled.map colouredPiece)

/-- The message without colours. Every piece that may hold a sequence is a styled one, so the
attributes around it begin and end outside a sequence. -/
def colourless (interruption : Interruption) (styled : Styled) : String :=
  String.join (styled.map fun piece => shown interruption piece.text)

def text (styled : Styled) : String := styled.colourless .ends

def written (styled : Styled) (colours : Bool) : String :=
  if colours then styled.coloured else styled.colourless .pauses

end Styled

end UrlHandoff.Text
