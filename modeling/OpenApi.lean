import OpenApi.Main
import OpenApi.Proofs.Closed
import OpenApi.Proofs.Kept
import OpenApi.Proofs.Literals
import OpenApi.Proofs.DocumentReadBack
import OpenApi.Proofs.Flattening
import OpenApi.Proofs.Decodable
import OpenApi.Proofs.Elements
import OpenApi.Proofs.Identifiers
import OpenApi.Proofs.Clashes
import OpenApi.Proofs.Rendered
import OpenApi.Proofs.NameIndex
import OpenApi.Proofs.Following
import OpenApi.Proofs.Sameness
import OpenApi.Proofs.Hoisting
import OpenApi.Proofs.Reading
import OpenApi.Proofs.Overriding
import OpenApi.Proofs.TypeLists
import OpenApi.Proofs.Additions
import OpenApi.Proofs.Inlining
import OpenApi.Proofs.Quoting
import OpenApi.Proofs.SafeIdentifiers
import OpenApi.Proofs.ExtensionSites
import OpenApi.Proofs.ResponseOrder
import OpenApi.Proofs.Casing
import OpenApi.Proofs.Loops
