import Shorthand.FieldType.Basic

/-! Zod expressions: the validators of the field types. -/
namespace Shorthand.FieldType

/-- An expression that builds a validator. -/
inductive ZodExpr where
  | string
  | number
  | boolean
  | date
  | unknown
  | any
  | array (element : ZodExpr)
  deriving DecidableEq, Repr

/-- The expression as it stands in a module. -/
def ZodExpr.print : ZodExpr → Text
  | .string => "z.string()".toList
  | .number => "z.number()".toList
  | .boolean => "z.boolean()".toList
  | .date => "z.coerce.date()".toList
  | .unknown => "z.unknown()".toList
  | .any => "z.any()".toList
  | .array e => "z.array(".toList ++ e.print ++ ")".toList

/-- Validator of a type that is no array; a type without a validator of its own is accepted
unchecked. -/
def plainZod (type : Text) : ZodExpr :=
  if type == "string".toList then .string
  else if type == "number".toList then .number
  else if type == "boolean".toList then .boolean
  else if type == "Date".toList then .date
  else if type == "any".toList then .any
  else .unknown

/-- Validator of a type. -/
def zod (type : Text) : ZodExpr :=
  if isArray type then .array (zod (element type)) else plainZod type
termination_by type.length
decreasing_by exact length_element_lt type (by assumption)

end Shorthand.FieldType
