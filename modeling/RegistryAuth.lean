import RegistryAuth.Main
import RegistryAuth.Proofs.Attempt
import RegistryAuth.Proofs.Authorization.Bundling
import RegistryAuth.Proofs.Authorization.Namespace
import RegistryAuth.Proofs.Authorization.Permission
import RegistryAuth.Proofs.Authorization.Policy
import RegistryAuth.Proofs.Authorization.Rules
import RegistryAuth.Proofs.Codec.Base64
import RegistryAuth.Proofs.Codec.Bytes
import RegistryAuth.Proofs.CommandLine.PrintedHash
import RegistryAuth.Proofs.Components.UserFaults
import RegistryAuth.Proofs.Components.UserTable
import RegistryAuth.Proofs.Components.Users
import RegistryAuth.Proofs.Configuration.Assembly
import RegistryAuth.Proofs.Configuration.Components
import RegistryAuth.Proofs.Configuration.Guessing
import RegistryAuth.Proofs.Configuration.Layers
import RegistryAuth.Proofs.Configuration.Reading
import RegistryAuth.Proofs.Configuration.RealmOverrides
import RegistryAuth.Proofs.Configuration.Service
import RegistryAuth.Proofs.Crypto.Argon2
import RegistryAuth.Proofs.Except
import RegistryAuth.Proofs.Glob.Language
import RegistryAuth.Proofs.Http.Admission
import RegistryAuth.Proofs.Http.BasicAuth
import RegistryAuth.Proofs.Http.Challenge
import RegistryAuth.Proofs.Http.Flows
import RegistryAuth.Proofs.Http.Identity
import RegistryAuth.Proofs.Http.Parameters
import RegistryAuth.Proofs.Http.PresentedLogin
import RegistryAuth.Proofs.Http.Query
import RegistryAuth.Proofs.Http.Refusals
import RegistryAuth.Proofs.Http.ScopeField
import RegistryAuth.Proofs.Http.TokenEndpoint
import RegistryAuth.Proofs.Http.TokenForm
import RegistryAuth.Proofs.Issuance.Cancellation
import RegistryAuth.Proofs.Issuance.Course
import RegistryAuth.Proofs.Issuance.Deployment
import RegistryAuth.Proofs.Issuance.Failures
import RegistryAuth.Proofs.Issuance.Grants
import RegistryAuth.Proofs.Issuance.History
import RegistryAuth.Proofs.Issuance.Order
import RegistryAuth.Proofs.Issuance.Ownership
import RegistryAuth.Proofs.Issuance.Redemption
import RegistryAuth.Proofs.Issuance.Reporting
import RegistryAuth.Proofs.Json.Record
import RegistryAuth.Proofs.Json.RoundTrip
import RegistryAuth.Proofs.Json.Scalar
import RegistryAuth.Proofs.Password.Hash
import RegistryAuth.Proofs.Registry.Sessions
import RegistryAuth.Proofs.Scope.Actions
import RegistryAuth.Proofs.Scope.Canonical
import RegistryAuth.Proofs.Scope.Gathering
import RegistryAuth.Proofs.Scope.Grammar
import RegistryAuth.Proofs.Scope.Guard
import RegistryAuth.Proofs.Scope.Inclusion
import RegistryAuth.Proofs.Scope.Merging
import RegistryAuth.Proofs.Text.Replace
import RegistryAuth.Proofs.Text.Split
import RegistryAuth.Proofs.Text.Trim
import RegistryAuth.Proofs.Text.Words
import RegistryAuth.Proofs.Token.Access
import RegistryAuth.Proofs.Token.Claims
import RegistryAuth.Proofs.Token.Configured
import RegistryAuth.Proofs.Token.Jwt
import RegistryAuth.Proofs.Token.KeyLoading
import RegistryAuth.Proofs.Token.Lifetime
import RegistryAuth.Proofs.Token.Separation
import RegistryAuth.Proofs.Token.Signing
import RegistryAuth.Proofs.Token.Validity
import RegistryAuth.Proofs.Token.Verification
import RegistryAuth.Token.Id
