import Shorthand.Text.Quoted

/-! The three forms of generated code, and filling them by name from a scope of variables. -/
namespace Shorthand.Artifact

/-- One line of a body. -/
def bodyLine (line : Text) : Text := "  ".toList ++ line ++ ['\n']

/-- A type alias with these lines as its body. -/
def aliasForm (name : Text) (lines : List Text) : Text :=
  "export type ".toList ++ name ++ " = \x7b\n".toList ++ lines.flatMap bodyLine ++ "\x7d;\n".toList

/-- An interface with these lines as its body. -/
def interfaceForm (name : Text) (lines : List Text) : Text :=
  "export interface ".toList ++ name ++ " \x7b\n".toList ++ lines.flatMap bodyLine ++
    "\x7d\n".toList

/-- One entry of a schema: a field name with its validator. -/
def schemaEntry (entry : Text × Text) : Text := entry.1 ++ ": ".toList ++ entry.2 ++ ",".toList

/-- A module with a schema, strict or not, and the type inferred from it. -/
def schemaForm (name : Text) (entries : List (Text × Text)) (strict : Bool) : Text :=
  "import \x7b z \x7d from \"zod\";\n\nexport const ".toList ++ name ++
    "Schema = z.object(\x7b\n".toList ++ (entries.map schemaEntry).flatMap bodyLine ++
    "\x7d)".toList ++ (if strict then ".strict()".toList else []) ++ ";\n\nexport type ".toList ++ name ++
    " = z.infer<typeof ".toList ++ name ++ "Schema>;\n".toList

/-- The forms that can be filled by name. -/
inductive Template where
  | typeAlias
  | interface
  | schema
  deriving DecidableEq, Repr

/-- What a scope knows about one entry of a schema. -/
structure Entry where
  name : Option Text
  expression : Option Text
  deriving DecidableEq, Repr

/-- Variables for filling a form; each may be missing. -/
structure Scope where
  typeName : Option Text := none
  lines : Option (List Text) := none
  entries : Option (List Entry) := none
  strict : Option Bool := none

namespace Template

/-- Why a form cannot be filled. -/
inductive Fault where
  | undefined (name : Text)
  | noAttribute (key : Text)
  | notFound (name : Text)
  | unreachable (name : Text)
  deriving DecidableEq, Repr

def Fault.message : Fault → Text
  | .undefined name => "'".toList ++ name ++ "' is undefined".toList
  | .noAttribute key => "'dict object' has no attribute '".toList ++ key ++ "'".toList
  | .notFound name => Text.Quoted.encode name ++ " not found".toList
  | .unreachable name => name

/-- Look a variable up. -/
def need {α : Type} (fault : Fault) : Option α → Except Fault α
  | some a => .ok a
  | none => .error fault

/-- Name and validator of an entry. -/
def Entry.pair (e : Entry) : Except Fault (Text × Text) := do
  let name ← need (.noAttribute "name".toList) e.name
  let expression ← need (.noAttribute "expr".toList) e.expression
  return (name, expression)

/-- Fill a form; variables are looked up in the order in which the form has them. -/
def fill (t : Template) (scope : Scope) : Except Fault Text := do
  let name ← need (.undefined "type_name".toList) scope.typeName
  match t with
  | .typeAlias => return aliasForm name (← need (.undefined "lines".toList) scope.lines)
  | .interface => return interfaceForm name (← need (.undefined "lines".toList) scope.lines)
  | .schema =>
    let entries ← need (.undefined "fields".toList) scope.entries
    let entries ← entries.mapM Entry.pair
    let strict ← need (.undefined "strict".toList) scope.strict
    return schemaForm name entries strict

/-- File name of a form. -/
def fileName : Template → Text
  | .typeAlias => "type.ts.j2".toList
  | .interface => "interface.ts.j2".toList
  | .schema => "zod.ts.j2".toList

/-- The form with this name, a path below the folder of forms. A path that leads upwards reaches
nothing. -/
def find (name : Text) : Except Fault Template :=
  let steps := name.splitOnP (· == '/')
  if steps.contains "..".toList then .error (.unreachable name)
  else match steps.filter fun step => !(step.isEmpty || step == ".".toList) with
    | [file] => need (.notFound name)
        ([typeAlias, interface, schema].find? fun t => t.fileName == file)
    | _ => .error (.notFound name)

/-- Fill the form with this name. Without the folder of forms no name reaches one. -/
def render (name : Text) (scope : Scope) (hasFolder : Bool) : Except Fault Text := do
  let t ← if hasFolder then find name else .error (.unreachable name)
  t.fill scope

/-- What is said when the form with this name cannot be filled. -/
def failure (name : Text) (fault : Fault) : Text :=
  "Failed to render template ".toList ++ name ++ ": ".toList ++ fault.message

end Template
end Shorthand.Artifact
