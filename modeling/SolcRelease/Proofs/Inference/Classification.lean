import SolcRelease.Proofs.Inference
import SolcRelease.Proofs.Version.Given

/-! What inference makes of all that a decoder can do, and which bounds it looks at for that. -/

namespace SolcRelease

namespace Inference

variable {decoder : Decoder} {bytecode : Bytes} {settings : Settings} {bound : Bound}
  {text : Text} {cause : Refusal} {failure : Failure}

end Inference

end SolcRelease
