import LetArith.Json.Basic
import LetArith.Node.Basic

namespace LetArith.Node

/-- The fields that say where a node begins. -/
def locationFields (location : Location) : List (String × Json) :=
  [("line", .integer location.line), ("col", .integer location.column)]

/-- A tree as a JSON document. -/
def document : Node → Json
  | .number value location =>
    .object ([("kind", .text "number"), ("value", .real value)] ++ locationFields location)
  | .binary left operator right location =>
    .object ([("kind", .text "binary"), ("operator", .text operator.symbol),
      ("left", left.document), ("right", right.document)] ++ locationFields location)
  | .binding name initial location =>
    .object ([("kind", .text "let"), ("name", .text name), ("initial", initial.document)]
      ++ locationFields location)

/-- Trees as the text of one JSON document. -/
def documentText (nodes : List Node) : String := (Json.array (nodes.map document)).render

end LetArith.Node
