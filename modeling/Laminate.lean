import Laminate.Main
import Laminate.Proofs.Declarations
import Laminate.Proofs.Forms
import Laminate.Proofs.ImportLines
import Laminate.Proofs.Contents
import Laminate.Proofs.Mirror
import Laminate.Proofs.RoundTrip
import Laminate.Proofs.Imports
import Laminate.Proofs.UsedImports
import Laminate.Proofs.Sources
import Laminate.Proofs.References
import Laminate.Proofs.Aliases
import Laminate.Proofs.Members
import Laminate.Proofs.FileOrder
import Laminate.Proofs.Identifiers
import Laminate.Proofs.Acceptance
import Laminate.Proofs.Decoding
import Laminate.Proofs.Routes
import Laminate.Proofs.PathTemplates
import Laminate.Proofs.SettingEffects
import Laminate.Proofs.OutputNames
import Laminate.Proofs.Precedence
import Laminate.Proofs.Merging
import Laminate.Proofs.Rereading
import Laminate.Proofs.Truncation
import Laminate.Proofs.Encoding
import Laminate.Proofs.PathForm
import Laminate.Proofs.RuleCalls
import Laminate.Proofs.StructTags
import Laminate.Proofs.SerializedKeys
import Laminate.Proofs.Conditions
import Laminate.Proofs.Patterns
import Laminate.Proofs.NumericConstants
import Laminate.Proofs.Bounds
import Laminate.Proofs.CustomConverters
import Laminate.Proofs.Inventory
import Laminate.Proofs.TypeImports
import Laminate.Proofs.ExprImports
import Laminate.Proofs.ImportOrder
import Laminate.Proofs.PointerPolicy
import Laminate.Proofs.TestTypes
import Laminate.Proofs.CompanionNames
import Laminate.Proofs.Parameters
import Laminate.Proofs.SettingParts
import Laminate.Proofs.CanonicalParameter
import Laminate.Proofs.Escapes
import Laminate.Proofs.OpaqueLiterals
import Laminate.Proofs.ExportedNames
import Laminate.Proofs.Alignment
import Laminate.Proofs.Progress
import Laminate.Proofs.CompanionFile
