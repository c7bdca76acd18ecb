import ExecutorRegistration.Address
import ExecutorRegistration.Arguments
import ExecutorRegistration.Binary64.Basic
import ExecutorRegistration.Binary64.Shortest
import ExecutorRegistration.CommandLine
import ExecutorRegistration.Console
import ExecutorRegistration.EnvFile.Basic
import ExecutorRegistration.EnvFile.Lines
import ExecutorRegistration.EnvFile.Loading
import ExecutorRegistration.EnvFile.Value
import ExecutorRegistration.Exchange
import ExecutorRegistration.Hex
import ExecutorRegistration.Json.Basic
import ExecutorRegistration.Json.Embedded
import ExecutorRegistration.Json.Fault
import ExecutorRegistration.Json.Printer
import ExecutorRegistration.Json.Reader
import ExecutorRegistration.Keccak
import ExecutorRegistration.Logging
import ExecutorRegistration.Main
import ExecutorRegistration.Octets
import ExecutorRegistration.Payload
import ExecutorRegistration.Settings.Basic
import ExecutorRegistration.Settings.Loading
import ExecutorRegistration.Signature
import ExecutorRegistration.SigningReport
import ExecutorRegistration.Submission
import ExecutorRegistration.Surroundings
import ExecutorRegistration.Text.Alphanumeric
import ExecutorRegistration.Text.Basic
import ExecutorRegistration.Text.CombiningTables
import ExecutorRegistration.Text.Composed
import ExecutorRegistration.Text.Quoted
import ExecutorRegistration.TypedData.Coercion
import ExecutorRegistration.TypedData.Hashing
import ExecutorRegistration.TypedData.Schema
import ExecutorRegistration.TypedData.TypeName
import ExecutorRegistration.Url.Basic
import ExecutorRegistration.Url.DirectionTables
import ExecutorRegistration.Url.Domain
import ExecutorRegistration.Url.DomainTables
import ExecutorRegistration.Url.Encoding
import ExecutorRegistration.Url.Host
import ExecutorRegistration.Url.JoiningTables
import ExecutorRegistration.Url.Path
import ExecutorRegistration.Url.Punycode
import ExecutorRegistration.Url.Scheme
import ExecutorRegistration.Proofs.AddressText
import ExecutorRegistration.Proofs.Json.Members
import ExecutorRegistration.Proofs.Octets
import ExecutorRegistration.Proofs.TypedData.StructDigest
import ExecutorRegistration.Proofs.Registration.Digest
import ExecutorRegistration.Proofs.Body
import ExecutorRegistration.Proofs.Registration.Binding
import ExecutorRegistration.Proofs.Submission
import ExecutorRegistration.Proofs.Calls
import ExecutorRegistration.Proofs.CommandLine
import ExecutorRegistration.Proofs.EnvFile
import ExecutorRegistration.Proofs.Surroundings
import ExecutorRegistration.Proofs.Text.Digits
import ExecutorRegistration.Proofs.TypedData.TypeNames
import ExecutorRegistration.Proofs.TypedData.Words
import ExecutorRegistration.Proofs.TypedData.SchemaDigest
import ExecutorRegistration.Proofs.Text.Decimal
import ExecutorRegistration.Proofs.Json.Leftover
import ExecutorRegistration.Proofs.Json.Limits
import ExecutorRegistration.Proofs.Json.Scalars
import ExecutorRegistration.Proofs.Json.Shape
import ExecutorRegistration.Proofs.Json.Layout
import ExecutorRegistration.Proofs.Json.Sorting
import ExecutorRegistration.Proofs.Json.Paths
import ExecutorRegistration.Proofs.Settings.Loading
import ExecutorRegistration.Proofs.Settings.RoundTrip
import ExecutorRegistration.Proofs.Registration.Separation
import ExecutorRegistration.Proofs.Settings.Dependence
import ExecutorRegistration.Proofs.BodyTexts
import ExecutorRegistration.Proofs.Keccak
import ExecutorRegistration.Proofs.TypedData.TypeTexts
import ExecutorRegistration.Proofs.Registration.Schemas
import ExecutorRegistration.Proofs.Registration.Wallet
import ExecutorRegistration.Proofs.Registration.Questions
import ExecutorRegistration.Proofs.Signature
import ExecutorRegistration.Proofs.Settings.Values
import ExecutorRegistration.Proofs.ShownBody
import ExecutorRegistration.Proofs.Exchange
import ExecutorRegistration.Proofs.Registration.Command
import ExecutorRegistration.Proofs.PostedSignature
import ExecutorRegistration.Proofs.Endpoint
import ExecutorRegistration.Proofs.Text.Numbers
import ExecutorRegistration.Proofs.Arguments
import ExecutorRegistration.Proofs.Numbers
