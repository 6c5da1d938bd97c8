import Folio.Document.ToJson
import Folio.Main
import Folio.Proofs.EventStream
import Folio.Proofs.HeadingTags
import Folio.Proofs.MountedRun
import Folio.Proofs.JsonNesting
import Folio.Proofs.JsonReading
import Folio.Proofs.JsonFields
import Folio.Proofs.DocumentDepth
import Folio.Proofs.HeadingsKept
import Folio.Proofs.MarkdownNesting
import Folio.Proofs.PageOutline
import Folio.Build.Parallel
import Folio.Proofs.NestingBound
import Folio.Proofs.OutlineParents
import Folio.Proofs.BuildPlan
import Folio.Proofs.BuildSteps
import Folio.Proofs.BuildAccounts
import Folio.Proofs.BuildOrder
import Folio.Proofs.DepthBound
import Folio.Proofs.Identifiers
import Folio.Proofs.PageOwners
import Folio.Proofs.EntityDecoding
import Folio.Proofs.ParsedElements
import Folio.Proofs.Passes
import Folio.Proofs.Remounting
import Folio.Proofs.TextLeaves
import Folio.Proofs.BuildFrame
import Folio.Proofs.MarkedText
import Folio.Proofs.Slugs
import Folio.Proofs.TomlStrings
import Folio.Proofs.ConfigFiles
