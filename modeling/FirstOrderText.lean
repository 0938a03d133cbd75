import FirstOrderText.Proofs.Collection
import FirstOrderText.Proofs.Conversion.Locality
import FirstOrderText.Proofs.Conversion.Representation
import FirstOrderText.Proofs.Reader.Nesting
import FirstOrderText.Proofs.Session.Verdict
