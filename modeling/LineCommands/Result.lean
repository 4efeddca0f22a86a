import LineCommands.Fault

/-!
# Results

Every operation of the interpreter that a user can ask for ends in a result: a success with data and
warnings, or a failure with a report. Either may carry metadata about the input.
-/

namespace LineCommands

/-- The result of an operation. -/
structure Result where
  ok : Bool
  /-- The name of the operation. -/
  op : String
  data : Fields Value
  warnings : List String
  error : Option Report
  metadata : Option (Fields Value)

/-- The result of an operation that ended in a fault. -/
def Result.failure (op : String) (f : Fault) (metadata : Fields Value) : Result where
  ok := false
  op := op
  data := []
  warnings := []
  error := some f.report
  metadata := some metadata

end LineCommands
