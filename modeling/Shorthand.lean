import Shorthand.Main
import Shorthand.Service.Launch
import Shorthand.Service.Routes
import Shorthand.Proofs.Except
import Shorthand.Proofs.Identifier
import Shorthand.Proofs.FieldType
import Shorthand.Proofs.Dialect
import Shorthand.Proofs.Separator
import Shorthand.Proofs.Passes
import Shorthand.Proofs.Agreement
import Shorthand.Proofs.Canonical
import Shorthand.Proofs.Declaration
import Shorthand.Proofs.NameForms
import Shorthand.Proofs.Schema
import Shorthand.Proofs.Disk
import Shorthand.Proofs.Emission
import Shorthand.Proofs.Utf8
import Shorthand.Proofs.Json.Numbers
import Shorthand.Proofs.Json.Strings
import Shorthand.Proofs.Json.Grammar
import Shorthand.Proofs.Json.Limits
import Shorthand.Proofs.Json.Members
import Shorthand.Proofs.Json.Writer
import Shorthand.Proofs.Json.Variants
import Shorthand.Proofs.Characters
import Shorthand.Proofs.CommandLine
import Shorthand.Proofs.Service
import Shorthand.Proofs.FrontEnds
import Shorthand.Proofs.Body
import Shorthand.Proofs.Optionality
import Shorthand.Proofs.Independence
import Shorthand.Proofs.TypeNames
import Shorthand.Proofs.Arguments
import Shorthand.Proofs.DryRun
import Shorthand.Proofs.ReadBack
import Shorthand.Proofs.Precedence
import Shorthand.Proofs.Room
import Shorthand.Proofs.Endings
import Shorthand.Proofs.Verdict
import Shorthand.Proofs.Brackets
import Shorthand.Proofs.Items
import Shorthand.Proofs.OptionalSegment
import Shorthand.Proofs.FaultPosition
import Shorthand.Proofs.ReservedWords
import Shorthand.Proofs.Calendar
import Shorthand.Proofs.Timestamp
import Shorthand.Proofs.Banners
import Shorthand.Proofs.BlankSpace
import Shorthand.Proofs.Sample
import Shorthand.Proofs.Spellings
import Shorthand.Proofs.Writes
import Shorthand.Proofs.WordStarts
import Shorthand.Proofs.NormalLayout
import Shorthand.Proofs.Loggers
