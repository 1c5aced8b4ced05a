/-
  What can be wrong with a criterion, a property path, a sort key or a page, and the message that
  says so.
-/
import Winnow.Operator

namespace Winnow

/-- An argument that a criterion cannot do without is missing. -/
inductive ArgumentFault where
  | blankProperty
  | noUpperBound
  | noDistance
  deriving DecidableEq, Repr

namespace ArgumentFault

/-- The name of the argument. -/
def argument : ArgumentFault → String
  | blankProperty => "property"
  | noUpperBound | noDistance => "value2"

def reason : ArgumentFault → String
  | blankProperty => "must not be empty"
  | noUpperBound => "Between requires an upper bound"
  | noDistance => "IsWithinDistance requires a numeric distance"

end ArgumentFault

/-- A text is not a property path, or its path cannot be used. -/
inductive PathFault where
  | noSegments
  | emptySegment
  | unbalancedBrackets
  | severalBrackets
  | textAfterBracket
  | notScalar
  deriving DecidableEq, Repr

namespace PathFault

def reason : PathFault → String
  | noSegments => "path is empty"
  | emptySegment => "empty path segment"
  | unbalancedBrackets => "unbalanced brackets"
  | severalBrackets => "only one bracketed segment is supported"
  | textAfterBracket => "unexpected text after ']'"
  | notScalar => "sort keys must be scalar members"

end PathFault

/-- The bounded parts of a page request. -/
inductive PageField where
  | number
  | count
  deriving DecidableEq, Repr

namespace PageField

def name : PageField → String
  | number => "Number"
  | count => "Count"

end PageField

/-- Why a criterion cannot be built or compiled, rows cannot be sorted, or a page cannot be
requested. A path is shown as it was given, a type by its name. -/
inductive Error where
  | invalidArgument (fault : ArgumentFault)
  | unsupportedOperation (op : Operator) (type : String)
  | memberNotFound (path member type : String)
  | notARecord (path member type : String)
  | notACollection (path member type : String)
  | invalidPath (path : String) (fault : PathFault)
  | invalidPagination (field : PageField) (value min max : Nat)
  deriving DecidableEq, Repr

namespace Error

/-- The message that is shown for an error. -/
def message : Error → String
  | invalidArgument fault =>
    "invalid argument '" ++ fault.argument ++ "': " ++ fault.reason
  | unsupportedOperation op type =>
    "operation '" ++ op.name ++ "' is not supported for " ++ type ++ " values"
  | memberNotFound path member type =>
    "member '" ++ member ++ "' not found on type '" ++ type ++ "' (path '" ++ path ++ "')"
  | notARecord path member type =>
    "member '" ++ member ++ "' on type '" ++ type ++ "' is not a nested record (path '" ++
      path ++ "')"
  | notACollection path member type =>
    "member '" ++ member ++ "' on type '" ++ type ++ "' is not a collection (path '" ++
      path ++ "')"
  | invalidPath path fault => "invalid property path '" ++ path ++ "': " ++ fault.reason
  | invalidPagination field value min max =>
    "pagination " ++ field.name ++ " must be between " ++ toString min ++ " and " ++
      toString max ++ ", got " ++ toString value

end Error

end Winnow
