import Rowbind.Binding.Positional

/-!
# Binding any arguments

The first argument decides how a template is read. A named one has to be the only one, and names the
parameters; otherwise all arguments have to be values, and stand for the placeholders in order.
-/

namespace Rowbind

/-- The values of positional arguments. -/
def positionalValues : List Argument → Except Error (List Value)
  | [] => .ok []
  | .value v :: rest => (positionalValues rest).map (v :: ·)
  | argument :: _ =>
    .error (.unsupportedArgument (.namedAmongPositional argument.kind))

/-- **Binds the arguments of a template.** -/
def Bound.compile (c : Catalog) (d : Dialect) (template : String) (arguments : List Argument)
    (o : Options) : Except Error Bound := do
  match arguments with
  | first :: rest =>
    if first.isNamed then
      if !rest.isEmpty then
        throw (.tooManyArguments arguments.length)
      bindNamed c d template first o
    else bindPositional d template (← positionalValues arguments)
  | [] => bindPositional d template []

end Rowbind
