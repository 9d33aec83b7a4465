/-
  HTML as a tree. Text and attribute values are kept as they are meant and are escaped when the tree
  is written, so every angle bracket of the output belongs to an element. Five characters mean
  something there and are written as references.
-/
import Taskbook.Text.Basic

namespace Taskbook.Html

/-- A character as it is written in HTML text and in quoted attribute values. -/
def escapeChar : Char → Text
  | '&' => "&amp;"
  | '<' => "&lt;"
  | '>' => "&gt;"
  | '"' => "&quot;"
  | '\'' => "&#x27;"
  | c => [c]

/-- A text as it is written in HTML text and in quoted attribute values. -/
def escape (s : Text) : Text := s.flatMap escapeChar

/-- A run of text, or an element with its attributes and children. -/
inductive Node where
  | text (content : Text)
  | element (name : Text) (attributes : List (Text × Text)) (children : List Node)

/-- An attribute as it is written in a tag. -/
def renderAttribute (pair : Text × Text) : Text :=
  " " ++ pair.1 ++ "=\"" ++ escape pair.2 ++ "\""

/-- The opening tag of an element. -/
def openTag (name : Text) (attributes : List (Text × Text)) : Text :=
  "<" ++ name ++ attributes.flatMap renderAttribute ++ ">"

/-- The closing tag of an element. -/
def closeTag (name : Text) : Text := "</" ++ name ++ ">"

mutual

/-- A node as HTML. -/
def Node.render : Node → Text
  | .text content => escape content
  | .element name attributes children =>
    openTag name attributes ++ Node.renderAll children ++ closeTag name

/-- Nodes one after another as HTML. -/
def Node.renderAll : List Node → Text
  | [] => []
  | node :: rest => node.render ++ Node.renderAll rest

end

end Taskbook.Html
