import TokenStream.Render
import TokenStream.Proofs.Json.Unambiguity
import TokenStream.Proofs.Json.Written

namespace TokenStream

/-- What is told of a token, whatever else may be known of its place. -/
structure Description where
  column : Nat
  stop : Nat
  kind : String
  line : Nat
  start : Nat
  text : List Char
deriving Repr, DecidableEq

namespace Description

/-- The object with one member for each part of a description. -/
def tree (description : Description) : Json.Tree (List Char) :=
  .object
    [("column".toList, .number description.column),
     ("end".toList, .number description.stop),
     ("kind".toList, .string description.kind.toList),
     ("line".toList, .number description.line),
     ("start".toList, .number description.start),
     ("text".toList, .string description.text)]

def toJson (description : Description) : Json.Value :=
  .object
    [("column", .number description.column),
     ("end", .number description.stop),
     ("kind", .string description.kind.toList),
     ("line", .number description.line),
     ("start", .number description.start),
     ("text", .string description.text)]

theorem trees_toJson (descriptions : List Description) :
    Json.Value.trees (descriptions.map toJson) = descriptions.map tree := by
  induction descriptions with
  | nil => rfl
  | cons description descriptions ih =>
      rw [List.map_cons, Json.Value.trees, ih]
      rfl

theorem tree_injective : Function.Injective tree := by
  intro first second same
  cases first
  cases second
  simp only [tree, Json.Tree.object.injEq, List.cons.injEq, Prod.mk.injEq, Json.Tree.number.injEq,
    Json.Tree.string.injEq, Nat.cast_inj, String.toList_inj, true_and, and_true] at same
  obtain ⟨rfl, rfl, rfl, rfl, rfl, rfl⟩ := same
  rfl

end Description

namespace Token

def description (token : Token) : Description where
  column := token.start.column
  stop := token.span.stop.offset
  kind := token.kind.name
  line := token.start.line
  start := token.start.offset
  text := token.text

theorem toJson_description (token : Token) : token.description.toJson = token.toJson := rfl

end Token

theorem render_json (showSpans : Bool) (tokens : List Token) :
    render { format := .json, showSpans } tokens =
      (Json.Value.array ((tokens.map Token.description).map Description.toJson)).write
        Json.indented 0 := by
  simp only [render, List.map_map, Function.comp_def, Token.toJson_description]

theorem document_render_json (showSpans : Bool) (tokens : List Token) :
    Json.Document (render { format := .json, showSpans } tokens)
      (.array ((tokens.map Token.description).map Description.tree)) := by
  rw [render_json, ← Description.trees_toJson]
  exact Json.Value.document_write Json.indented_blank 0 _

/-- The JSON form of any list of tokens is a document that stands for the array of their
descriptions and for nothing else.  Lists have the same form when they have the same descriptions,
and only then. -/
theorem render_json_tells_descriptions (showSpans : Bool) (tokens : List Token) :
    (∀ tree, Json.Document (render { format := .json, showSpans } tokens) tree ↔
      tree = .array ((tokens.map Token.description).map Description.tree)) ∧
    ∀ (others : List Token) (otherSpans : Bool),
      render { format := .json, showSpans } tokens =
          render { format := .json, showSpans := otherSpans } others ↔
        tokens.map Token.description = others.map Token.description := by
  have stands := document_render_json showSpans tokens
  refine ⟨fun tree => ⟨fun read => read.unique stands, fun same => same ▸ stands⟩, ?_⟩
  intro others otherSpans
  constructor
  · intro same
    have read := document_render_json otherSpans others
    rw [← same] at read
    have trees := Json.Tree.array.inj (stands.unique read)
    exact Description.tree_injective.list_map trees
  · intro same
    rw [render_json, render_json, same]

end TokenStream
