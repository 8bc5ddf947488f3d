import Compendium.Document.Basic
import Compendium.Document.Class
import Compendium.Document.Creature
import Compendium.Document.Deck
import Compendium.Document.Item
import Compendium.Document.Origin
import Compendium.Document.Rule
import Compendium.Document.Spell
import Compendium.Document.Vehicle
import Compendium.Entry
import Compendium.SourceFilter

/-!
# Building documents

A record becomes a document and an index entry, unless it has no name or comes
from a source that is not wanted.  All documents share one shape: the title, a
subtitle, the source, and the parts that the category's layout lists.

Two numbers in documents are worked out from a record.  Where they leave the range of
64 bits they are brought back into it, or nothing is built if arithmetic is checked.
-/

namespace Compendium.Document

open Compendium.Render (Style)

/-- The layout of a category's documents. -/
def layoutOf : Category → Layout
  | .spell => Spell.layout
  | .creature => Creature.layout
  | .item => Item.layout
  | .equipment => Item.layout
  | .playerClass => PlayerClass.layout
  | .subclass => Subclass.layout
  | .species => Species.layout
  | .background => Background.layout
  | .feat => Feat.layout
  | .rule => Rule.layout
  | .condition => Condition.layout
  | .action => Action.layout
  | .vehicle => Vehicle.layout
  | .trap => Trap.layout
  | .deck => Deck.layout
  | .table => Table.layout

/-- A labelled line, if it has anything to say. -/
def Line.render? (s : Style) (r : Record) (line : Line) : Option String :=
  (line.text? s r).bind fun text =>
    (Text.nonEmpty? (Text.trim text)).map fun text => Style.bold line.label ++ " " ++ text

/-- The Markdown of a part. -/
def Part.render (s : Style) (r : Record) : Part → String
  | .lines rules => Markdown.joinBlocks (rules.filterMap (Line.render? s r))
  | .abilityScores => (abilityTable? r).getD ""
  | .rule => "---"
  | .entries key => ((r.get? key).map fun v => Render.value s v 0).getD ""
  | .titled title key => titledSection s r title key
  | .custom text => text s r

/-- The line that names the source. -/
def sourceLine? (source? : Option String) (page? : Option Nat) : Option String :=
  source?.map fun source =>
    "**Source**: " ++ source ++ (page?.map fun page => ", page " ++ toString page).getD ""

/-- The blocks of a document's body. -/
def blocks (s : Style) (layout : Layout) (r : Record) (name : String) (source? : Option String) :
    List String :=
  ("# " ++ name) :: ((layout.subtitle? s r).map fun line => "*" ++ line ++ "*").toList ++
    (sourceLine? source? r.page?).toList ++ layout.parts.map (Part.render s r)

/-- The text of a document. -/
def bodyText (s : Style) (layout : Layout) (r : Record) (name : String) (source? : Option String) :
    String :=
  Markdown.joinBlocks (blocks s layout r name source?) ++ "\n"

/-- The name under which a record is shown, unless it is blank. -/
def displayName? (s : Style) (r : Record) : Option String :=
  r.name?.bind fun raw => Text.nonEmpty? (Text.trim (s.plainText raw))

/-- What becomes of a record. -/
inductive Outcome where
  | built (document : Document) (entry : Entry)
  /-- The record's source is not wanted. -/
  | filtered (name : String) (source? : Option String)
  /-- The value is no record, or it has no name. -/
  | unnamed

/-- Builds the document and the entry of a record. -/
def build (s : Style) (filter : SourceFilter) (category : Category) (v : Json) : Outcome :=
  match v.record? with
  | none => .unnamed
  | some r =>
    match displayName? s r with
    | none => .unnamed
    | some name =>
      let source? := r.source?.map Text.trim
      if filter.allows source? then
        let layout := layoutOf category
        let path := naturalPath category name
        .built ⟨name, source?, r.page?, category, path, bodyText s layout r name source?⟩
          ⟨name, category, source?, path, layout.facets s r⟩
      else .filtered name source?

end Compendium.Document
