import SolcRelease.Proofs.Range.Comparator
import SolcRelease.Proofs.Service.Answer
import SolcRelease.Proofs.Service.Document

/-! The range that an answer shows, and the releases that the same answer offers as candidates. -/

namespace SolcRelease

namespace Service

variable {service : Service} {request : Request} {world : World} {journal : Journal}
  {answer : Answer}

section Sample

end Sample

end Service

end SolcRelease
