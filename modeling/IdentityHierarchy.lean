import IdentityHierarchy.Bytes.Lemmas
import IdentityHierarchy.Config.Document
import IdentityHierarchy.Config.Encoding
import IdentityHierarchy.Elliptic.Bls12381
import IdentityHierarchy.Document.Reader
import IdentityHierarchy.Identity.Mapping
import IdentityHierarchy.Scheme.Precomputed
import IdentityHierarchy.Signing.Outline
import IdentityHierarchy.Proofs.Delegation
import IdentityHierarchy.Proofs.Envelope
import IdentityHierarchy.Proofs.Session
import IdentityHierarchy.Proofs.Replacement
import IdentityHierarchy.Proofs.Signing
import IdentityHierarchy.Proofs.Acceptance
import IdentityHierarchy.Proofs.Decryption
import IdentityHierarchy.Proofs.Trial
import IdentityHierarchy.Proofs.Precomputed
import IdentityHierarchy.Proofs.History
import IdentityHierarchy.Proofs.RoundTrip
import IdentityHierarchy.Proofs.Grammar
import IdentityHierarchy.Proofs.Decoding
import IdentityHierarchy.Proofs.Rehashing
import IdentityHierarchy.Proofs.ElementExchange
import IdentityHierarchy.Proofs.Mismatch
import IdentityHierarchy.Proofs.Randomness
import IdentityHierarchy.Proofs.Levels
import IdentityHierarchy.Proofs.Inheritance
import IdentityHierarchy.Proofs.Layout
import IdentityHierarchy.Proofs.NormalForm
import IdentityHierarchy.Proofs.EncodingLimit
import IdentityHierarchy.Proofs.CurvePoints
import IdentityHierarchy.Proofs.Sampling
import IdentityHierarchy.Proofs.CountErrors
import IdentityHierarchy.Proofs.LeastDigest
import IdentityHierarchy.Proofs.Representation
import IdentityHierarchy.Proofs.ExponentRange
import IdentityHierarchy.Proofs.Truncation
import IdentityHierarchy.Proofs.Ancestors
