import Attest.Number.Shortest
import Attest.Number.Scientific
import Attest.Text.Letter
import Attest.Text.Mark
import Attest.Text.Numeral
import Attest.Text.Unprintable
import Attest.Text.Lowercase
import Attest.Text.Quoted
import Attest.Calendar.DateTime
import Attest.Text.Pattern
import Attest.Format.Email
import Attest.Format.Uuid
import Attest.Format.ZonedDateTime
import Attest.Value.Fault
import Attest.Value.Written
import Attest.Value.Equality
import Attest.Value.Order
import Attest.Value.Conversion
import Attest.Factory
import Attest.Context
import Attest.Elements
import Attest.Primitive
import Attest.Assertion.Run
import Attest.Assertion.Build
import Attest.Assertion.Named
import Attest.Verdict
import Attest.Probe
import Attest.Proofs.Acceptance
import Attest.Proofs.Factories
import Attest.Proofs.Laziness
import Attest.Proofs.Localization
import Attest.Proofs.Verdicts
import Attest.Proofs.Tables
import Attest.Proofs.Loosening
import Attest.Proofs.CallOrder
import Attest.Proofs.Addresses
import Attest.Proofs.Misuse
import Attest.Proofs.KeyEquality
import Attest.Proofs.StrictNames
import Attest.Proofs.PlainAddresses
import Attest.Proofs.Instants
import Attest.Proofs.Noninterference
import Attest.Proofs.StrictFilter
import Attest.Proofs.Reordering
import Attest.Proofs.Alternatives
import Attest.Proofs.InlineSchemas
import Attest.Proofs.StrictEquality
import Attest.Proofs.Lengths
import Attest.Proofs.Uniqueness
import Attest.Proofs.PrimaryKey
import Attest.Proofs.Complaints
import Attest.Proofs.GivenExceptions
import Attest.Proofs.Identifiers
import Attest.Proofs.Containers
