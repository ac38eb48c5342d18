import Shorthand.Identifier.Case

/-! Making identifiers out of raw words, clear of a set of reserved words. -/
namespace Shorthand.Identifier

/-- Reserved words, and what is put behind a name that is one. -/
structure Sanitizer where
  reserved : List Text := []
  typeEnding : Text := "Type".toList
  fieldEnding : Text := "_".toList

namespace Sanitizer

def isReserved (z : Sanitizer) (name : Text) : Bool := z.reserved.contains name

/-- Put `ending` behind a reserved word. -/
def avoid (z : Sanitizer) (ending name : Text) : Text :=
  if z.isReserved name then name ++ ending else name

/-- Name of a type: `Type` when nothing of the word can be kept. -/
def typeName (z : Sanitizer) (raw : Text) : Text :=
  let name := pascal (Text.trim raw)
  z.avoid z.typeEnding (if name.isEmpty then "Type".toList else name)

/-- An identifier does not start with a digit. -/
def guardDigit (name : Text) : Text :=
  if (name.head?.any Char.isDigit) then '_' :: name else name

/-- Name of a field: `prop` when nothing of the word can be kept. -/
def fieldName (z : Sanitizer) (raw : Text) : Text :=
  let name := camel (Text.trim raw)
  z.avoid z.fieldEnding (guardDigit (if name.isEmpty then "prop".toList else name))

end Sanitizer

/-- Words of TypeScript that cannot name a field or a type, or would make an awkward name. -/
def reservedWords : List Text :=
  ["break".toList, "case".toList, "catch".toList, "class".toList, "const".toList,
   "continue".toList, "debugger".toList, "default".toList, "delete".toList, "do".toList,
   "else".toList, "enum".toList, "export".toList, "extends".toList, "false".toList,
   "finally".toList, "for".toList, "function".toList, "if".toList, "import".toList,
   "in".toList, "instanceof".toList, "new".toList, "null".toList, "return".toList,
   "super".toList, "switch".toList, "this".toList, "throw".toList, "true".toList,
   "try".toList, "typeof".toList, "var".toList, "void".toList, "while".toList,
   "with".toList, "as".toList, "implements".toList, "interface".toList, "let".toList,
   "package".toList, "private".toList, "protected".toList, "public".toList,
   "static".toList, "yield".toList, "any".toList, "boolean".toList, "constructor".toList,
   "declare".toList, "get".toList, "module".toList, "require".toList, "number".toList,
   "set".toList, "string".toList, "symbol".toList, "type".toList, "from".toList,
   "of".toList, "unknown".toList]

/-- The sanitizer for TypeScript. -/
def typescript : Sanitizer := { reserved := reservedWords }

/-- Name of a TypeScript type. -/
def typeName (raw : Text) : Text := typescript.typeName raw

/-- Name of a field of a TypeScript type. -/
def fieldName (raw : Text) : Text := typescript.fieldName raw

end Shorthand.Identifier
