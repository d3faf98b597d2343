import StoredCall.CallConfig.Descriptor
import StoredCall.Fixtures
import StoredCall.Proofs.ArgumentMatching
import StoredCall.Proofs.CacheHistory
import StoredCall.Proofs.CallShape
import StoredCall.Proofs.ColumnOrder
import StoredCall.Proofs.DeclaredCalls
import StoredCall.Proofs.DescriptorLanguage
import StoredCall.Proofs.DistinctArguments
import StoredCall.Proofs.DroppedCalls
import StoredCall.Proofs.EmptyQualifiers
import StoredCall.Proofs.FieldMatching
import StoredCall.Proofs.KeyCollisions
import StoredCall.Proofs.LimitedInputs
import StoredCall.Proofs.LostDeclarations
import StoredCall.Proofs.NameCase
import StoredCall.Proofs.OutputNames
import StoredCall.Proofs.RefusedCalls
import StoredCall.Proofs.RepeatedProcess
import StoredCall.Proofs.ReportedNames
import StoredCall.Proofs.ResultTaker
import StoredCall.Proofs.SharedAgreement
import StoredCall.RowMappers
import StoredCall.SharedCache
import StoredCall.Value.Document.Printer
import StoredCall.Value.Document.Reader
