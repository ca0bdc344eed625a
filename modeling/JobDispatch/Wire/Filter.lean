import JobDispatch.Query.Filter
import JobDispatch.Wire.Basic

/-!
The JSON forms of filters and of the values of fields.
-/

namespace JobDispatch

def FieldValue.toJson : FieldValue → Json
  | .text s => .record [("Text", .text s)]
  | .texts ss => .record [("Texts", Wire.toJson ss)]
  | .time t => .record [("Time", Wire.toJson t)]

namespace Filter

mutual

def toJson : Filter → Json
  | all => .text "All"
  | eq field value => .record [("Eq", .record [("field", .text field), ("value", .text value)])]
  | oneOf field values =>
    .record [("In", .record [("field", .text field), ("values", Wire.toJson values)])]
  | matching field value =>
    .record [("Matches", .record [("field", .text field), ("value", .text value)])]
  | before field instant =>
    .record [("Before", .record [("field", .text field), ("instant", Wire.toJson instant)])]
  | conj terms => .record [("And", .list (toJsons terms))]
  | disj terms => .record [("Or", .list (toJsons terms))]

def toJsons : List Filter → List Json
  | [] => []
  | f :: fs => f.toJson :: toJsons fs

end

end Filter

end JobDispatch
