import SolcRelease.Proofs.Activity

/-! The warnings among the records of a journal. -/

namespace SolcRelease

namespace Journal

/-- The records of a journal that warn. -/
def warnings (journal : Journal) : List Record :=
  journal.records.filter fun record => record.level = .warning

/-- Each warning of a journal is one of its first or of its second part. -/
@[simp] theorem warnings_append (first second : Journal) :
    (first ++ second).warnings = first.warnings ++ second.warnings := by
  rw [warnings, records, List.filterMap_append, List.filter_append]
  rfl

/-- Nothing warns in an empty journal. -/
@[simp] theorem warnings_nil : Journal.warnings [] = [] :=
  rfl

/-- An inquiry does not warn. -/
@[simp] theorem warnings_fetched (inquiry : Inquiry) (rest : Journal) :
    Journal.warnings (.fetched inquiry :: rest) = rest.warnings :=
  rfl

/-- A decoding does not warn. -/
@[simp] theorem warnings_decoded (bytecode : Bytes) (rest : Journal) :
    Journal.warnings (.decoded bytecode :: rest) = rest.warnings :=
  rfl

/-- A record warns if its level says so. -/
@[simp] theorem warnings_logged (record : Record) (rest : Journal) :
    Journal.warnings (.logged record :: rest) =
      if record.level = .warning then record :: rest.warnings else rest.warnings := by
  by_cases warns : record.level = .warning <;> simp [warnings, records, warns]

/-- How many records of a journal warn about the catalog. -/
def catalogWarnings (journal : Journal) : Nat :=
  journal.warnings.countP fun record => record.logger = .catalog

/-- The warnings about the catalog are those of the first and of the second part. -/
@[simp] theorem catalogWarnings_append (first second : Journal) :
    (first ++ second).catalogWarnings = first.catalogWarnings + second.catalogWarnings := by
  rw [catalogWarnings, warnings_append, List.countP_append]
  rfl

end Journal

end SolcRelease
