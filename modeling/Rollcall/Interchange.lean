import Rollcall.Datum.Checked
import Rollcall.Finding

/-!
# Locations and findings as data

Locations and findings are written as records and read from them.  Fields that are not known are passed over.
-/

namespace Rollcall

namespace Position

/-- A position as a record. -/
def datum (p : Position) : Datum :=
  .record [("row", .integer p.row), ("column", .integer p.column)]

/-- Reads a position. -/
def ofDatum : Datum → Checked Position :=
  Datum.asRecord "Position" fun fields =>
    mk <$> Datum.required fields "row" Datum.asInteger <*> Datum.required fields "column" Datum.asInteger

end Position

namespace Location

/-- A location as a record. -/
def datum (l : Location) : Datum :=
  .record [("path", .text l.path), ("start_byte", .integer l.startByte), ("end_byte", .integer l.endByte),
    ("start_point", l.startPoint.datum), ("end_point", l.endPoint.datum)]

/-- Reads a location. -/
def ofDatum : Datum → Checked Location :=
  Datum.asRecord "Location" fun fields =>
    mk <$> Datum.required fields "path" Datum.asText
      <*> Datum.optional fields "start_byte" 0 Datum.asInteger
      <*> Datum.optional fields "end_byte" 0 Datum.asInteger
      <*> Datum.optional fields "start_point" Position.origin Position.ofDatum
      <*> Datum.optional fields "end_point" Position.origin Position.ofDatum

end Location

namespace Finding

/-- A finding as a record. -/
def datum (f : Finding) : Datum :=
  .record [("rule_id", .text f.ruleId), ("subject", .text f.subject),
    ("location", (f.location.map Location.datum).getD .null)]

/-- Reads a finding. -/
def ofDatum : Datum → Checked Finding :=
  Datum.asRecord "Finding" fun fields =>
    mk <$> Datum.required fields "rule_id" Datum.asText
      <*> Datum.required fields "subject" Datum.asText
      <*> Datum.optional fields "location" none (Datum.asOptional Location.ofDatum)

/-- The fault of changing a field of a finding: findings do not change.  A name that starts with an underscore is no
field, and what is kept under it does not belong to the finding. -/
def assignmentFault? (field : String) : Option Fault :=
  if field.toList.head? = some '_' then none else some ⟨[field], .frozen⟩

end Finding

end Rollcall
