import Compendium.Main
import Compendium.Proofs.Chars
import Compendium.Proofs.Trim
import Compendium.Proofs.Case
import Compendium.Proofs.Decimal
import Compendium.Proofs.Slug
import Compendium.Proofs.Document.Paths
import Compendium.Proofs.Conversion.PathRegistry
import Compendium.Proofs.Conversion.Records
import Compendium.Proofs.Conversion.Run
import Compendium.Proofs.Conversion.Freshness
import Compendium.Proofs.Index.Sorting
import Compendium.Proofs.Index.InputOrder
import Compendium.Proofs.Assoc
import Compendium.Proofs.Export.Memory
import Compendium.Proofs.Conversion.NaturalPaths
import Compendium.Proofs.Export.Links
import Compendium.Proofs.Export.FileTree
import Compendium.Proofs.Export.Directory
import Compendium.Proofs.Render.Depth
import Compendium.Proofs.Inline.PlainText
import Compendium.Proofs.Document.Styles
import Compendium.Proofs.Conversion.Accounts
import Compendium.Proofs.Index.Rows
import Compendium.Proofs.Index.AnyOrder
import Compendium.Proofs.Conversion.Styles
import Compendium.Proofs.Conversion.Accepted
import Compendium.Proofs.Markdown.TableRow
import Compendium.Proofs.Markdown.Blocks
import Compendium.Proofs.Bytes
import Compendium.Proofs.Markdown.Target
import Compendium.Proofs.Render.Table
import Compendium.Proofs.Index.Groups
import Compendium.Proofs.Index.Views
import Compendium.Proofs.Index.Keywords
import Compendium.Proofs.Inline.Composition
import Compendium.Proofs.Inline.TagText
import Compendium.Proofs.Inline.Nesting
import Compendium.Proofs.Conversion.Policies
import Compendium.Proofs.Render.Siblings
import Compendium.Proofs.Markdown.Lines
import Compendium.Proofs.Render.Lists
import Compendium.Proofs.Render.Quotes
import Compendium.Proofs.Render.Headings
import Compendium.Proofs.Inline.Emphasis
import Compendium.Proofs.Inline.Printing
import Compendium.Proofs.Inline.SingleTag
import Compendium.Proofs.Inline.Attacks
import Compendium.Proofs.Conversion.References
import Compendium.Proofs.Index.Lookup
import Compendium.Proofs.Index.KeywordGroups
import Compendium.Proofs.Conversion.Statblocks
import Compendium.Proofs.Markdown.Code
import Compendium.Proofs.Document.Shape
import Compendium.Proofs.Document.SpellLine
import Compendium.Proofs.Export.Contents
import Compendium.Proofs.Export.Root
import Compendium.Proofs.Document.LevelTable
import Compendium.Proofs.Document.TableShape
import Compendium.Proofs.Document.FacetLinks
import Compendium.Proofs.Document.FeatureCount
import Compendium.Proofs.Render.Spells
import Compendium.Proofs.Document.LevelFeatures
import Compendium.Proofs.Document.DefenseNames
import Compendium.Proofs.Encoding.Decoding
import Compendium.Proofs.Markdown.RowBorders
import Compendium.Proofs.Slug.Form
import Compendium.Proofs.Markdown.TargetEncoding
import Compendium.Proofs.Phrase
import Compendium.Proofs.Inline.Braces
import Compendium.Proofs.Index.Comparators
