import ApiSite.Text.Basic
import ApiSite.Data.Value
import ApiSite.Yaml.Document
import ApiSite.Pattern.Match
import ApiSite.Settings
import ApiSite.Markup.Document
import ApiSite.Markup.Writer
import ApiSite.Sanitize
import ApiSite.Model.Loading
import ApiSite.Model.Edit
import ApiSite.Location.Assignment
import ApiSite.Doc.Documentation
import ApiSite.Signature.Declaration
import ApiSite.Navigation
import ApiSite.Report
import ApiSite.Run.Generation
import ApiSite.Main
import ApiSite.Proofs.Doc.Code
import ApiSite.Proofs.Doc.Rendering
import ApiSite.Proofs.Output.Convergence
import ApiSite.Proofs.Markup.Alerts
import ApiSite.Proofs.Markup.AngleBrackets
import ApiSite.Proofs.Markup.BackslashDocument
import ApiSite.Proofs.Markup.BulletDocument
import ApiSite.Proofs.Markup.CodeBlocks
import ApiSite.Proofs.Markup.EscapedText
import ApiSite.Proofs.Markup.FencedCode
import ApiSite.Proofs.Markup.TableDocument
import ApiSite.Proofs.Page.Anchors
import ApiSite.Proofs.Page.HeadingIds
import ApiSite.Proofs.Sanitize.Accounting
import ApiSite.Proofs.Sanitize.Braces
import ApiSite.Proofs.Sanitize.Frames
import ApiSite.Proofs.Navigation.Pages
import ApiSite.Proofs.Run.Report
import ApiSite.Proofs.Run.Subtrees
import ApiSite.Proofs.Run.TypeLinks
import ApiSite.Proofs.Markup.Numbering
import ApiSite.Proofs.WordChars
import ApiSite.Proofs.Reference.Spelling
import ApiSite.Proofs.Doc.ClassNames
import ApiSite.Proofs.Doc.LegacyPaths
import ApiSite.Proofs.Doc.Fragments
import ApiSite.Proofs.Table
import ApiSite.Proofs.Page.Metadata
import ApiSite.Proofs.Table.Cells
import ApiSite.Proofs.Page.OpeningTitle
import ApiSite.Proofs.Signature.Nesting
import ApiSite.Proofs.Signature.PlainText
import ApiSite.Proofs.Signature.Parameters
import ApiSite.Proofs.Page.CodeLines
import ApiSite.Proofs.Page.Sections
import ApiSite.Proofs.Output.ImportLines
import ApiSite.Proofs.Model.Implementers
import ApiSite.Proofs.Model.TypeTargets
import ApiSite.Proofs.Data.Merge
import ApiSite.Proofs.Markup.BlankLines
import ApiSite.Proofs.Run.Digests
import ApiSite.Proofs.Page.Inheritance
import ApiSite.Proofs.Location.FileNames
