import StyleInline.Files.Tree
import StyleInline.Inlining.Program
import StyleInline.Inlining.Session
import StyleInline.Proofs.DocumentOrder
import StyleInline.Proofs.Traversal
import StyleInline.Proofs.Outcomes
import StyleInline.Proofs.Requests
import StyleInline.Proofs.SecondRun
import StyleInline.Proofs.PlaceByPlace
import StyleInline.Proofs.Course
import StyleInline.Proofs.Account
import StyleInline.Proofs.Sharing
import StyleInline.Proofs.VisitOrder
import StyleInline.Proofs.Gathering
import StyleInline.Proofs.Grammar
import StyleInline.Proofs.Reading
import StyleInline.Proofs.Literals
import StyleInline.Proofs.Members
import StyleInline.Proofs.SupplyText
import StyleInline.Proofs.ConfigText
import StyleInline.Proofs.Context
import StyleInline.Proofs.Spelling
import StyleInline.Proofs.SourceEnding
import StyleInline.Proofs.NormalForm
import StyleInline.Proofs.TextualJoin
import StyleInline.Proofs.ExportsText
import StyleInline.Proofs.TableAndFiles
import StyleInline.Proofs.SidecarPlace
import StyleInline.Proofs.CutShort
import StyleInline.Proofs.TableLookup
import StyleInline.Proofs.WiderTable
import StyleInline.Proofs.InsertionHistory
import StyleInline.Proofs.SameExports
import StyleInline.Proofs.ObjectMeaning
