import Compendium.Facet
import Compendium.Record
import Compendium.Render.Style

/-!
# Layouts of documents

What differs between the documents of two categories: the line under the title,
the parts of the body in order, and the facets that are indexed.
-/

namespace Compendium.Document

open Compendium.Render (Style)

/-- A labelled line; nothing to say leaves the line out. -/
structure Line where
  label : String
  text? : Style → Record → Option String

/-- A part of a document's body. -/
inductive Part where
  /-- Labelled lines. -/
  | lines (lines : List Line)
  /-- The ability scores as a table. -/
  | abilityScores
  /-- A horizontal rule. -/
  | rule
  /-- A field of the record as part of the tree. -/
  | entries (key : String)
  /-- A field under a heading; left out when it renders as nothing. -/
  | titled (title key : String)
  /-- A rendering of its own. -/
  | custom (text : Style → Record → String)

/-- The layout of a category's documents. -/
structure Layout where
  subtitle? : Style → Record → Option String
  parts : List Part
  facets : Style → Record → Facets

end Compendium.Document
