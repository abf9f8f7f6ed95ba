import LetArith.Node.Document
import LetArith.Proofs.Json.Escapes
import LetArith.Proofs.Json.Numerals

namespace LetArith

/-- A rendered document denotes itself. -/
theorem Json.denotes_render (document : Json) : Denotes document.render.toList document :=
  composed_renderAt WordDenotes QuoteDenotes wordDenotes_toString quoteDenotes_quoted document
    (fun x _ => wordDenotes_text x) 0

theorem Operator.symbol_injective {first second : Operator} (h : first.symbol = second.symbol) :
    first = second := by
  cases first <;> cases second <;> first | rfl | exact absurd h (by decide)

namespace Node

theorem locationFields_injective {first second : Location}
    (h : locationFields first = locationFields second) : first = second := by
  simp only [locationFields, List.cons.injEq, Prod.mk.injEq, Json.integer.injEq] at h
  obtain ⟨⟨-, hline⟩, ⟨-, hcolumn⟩, -⟩ := h
  cases first
  cases second
  congr

/-- Trees of the same document are the same, places included. -/
theorem document_injective {first second : Node} (h : first.document = second.document) :
    first = second := by
  induction first generalizing second with
  | number value location =>
    cases second with
    | number =>
      simp only [document, List.cons_append, List.nil_append, Json.object.injEq, List.cons.injEq,
        Prod.mk.injEq, Json.real.injEq, true_and] at h
      rw [h.1, locationFields_injective h.2]
    | binary | binding => simp [document] at h
  | binary left operator right location ihleft ihright =>
    cases second with
    | binary =>
      simp only [document, List.cons_append, List.nil_append, Json.object.injEq, List.cons.injEq,
        Prod.mk.injEq, Json.text.injEq, true_and] at h
      obtain ⟨hoperator, hleft, hright, hlocation⟩ := h
      rw [Operator.symbol_injective hoperator, ihleft hleft, ihright hright,
        locationFields_injective hlocation]
    | number | binding => simp [document] at h
  | binding name initial location ih =>
    cases second with
    | binding =>
      simp only [document, List.cons_append, List.nil_append, Json.object.injEq, List.cons.injEq,
        Prod.mk.injEq, Json.text.injEq, true_and] at h
      obtain ⟨hname, hinitial, hlocation⟩ := h
      rw [hname, ih hinitial, locationFields_injective hlocation]
    | number | binary => simp [document] at h

/-- The text of trees is read as the documents of the trees, and only the trees themselves have the
    same text. -/
theorem documents_read_back (nodes : List Node) :
    Json.read? (documentText nodes).toList = some (.array (nodes.map document)) ∧
      ∀ others, documentText nodes = documentText others ↔ nodes = others := by
  have hread (nodes : List Node) :
      Json.read? (documentText nodes).toList = some (.array (nodes.map document)) :=
    Json.read?_of_denotes (Json.denotes_render _)
  refine ⟨hread nodes, fun others => ⟨fun htext => ?_, fun h => h ▸ rfl⟩⟩
  have hsame := hread nodes
  rw [htext, hread others, Option.some.injEq, Json.array.injEq] at hsame
  exact (List.map_injective_iff.2 (fun _ _ => document_injective) hsame).symm

end Node

end LetArith
