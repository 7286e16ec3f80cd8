import MonitoringConfig.Catalogue
/-!
# Recipes

A recipe says how a value is put together: of plain data, of what builders make of other values, of
what methods and operators make of them, and of documents.

* `Recipe.cook` follows a recipe.
-/

namespace MonitoringConfig

open Logged

/-- How a value is put together. -/
inductive Recipe where
  | value (v : Value)
  | list (items : List Recipe)
  | tuple (items : List Recipe)
  | map (entries : List (String × Recipe))
  /-- What a builder makes of arguments. -/
  | build (name : String) (args : List Recipe) (given : List (String × Recipe))
  /-- What a method of a value gives back. -/
  | method (name : String) (on : Recipe) (args : List Recipe) (given : List (String × Recipe))
  /-- What a binary operator makes of two values. -/
  | operate (symbol : String) (left right : Recipe)
  /-- The entity that plain data describe in a style. -/
  | read (kind : String) (data : Recipe) (style : Value)
  /-- The entity that a document describes. -/
  | parse (kind : String) (document : Recipe)
  deriving Inhabited

namespace Value

/-- Whether an operator is there when the expression is on its right. -/
def isReflected (symbol : String) : Bool :=
  ["+", "-", "*", "/"].contains symbol

/-- What an operator makes of two values without expressions. -/
def operatePlain (symbol : String) (a b : Value) : Except Failure Value :=
  match symbol, a, b with
  | "+", duration x, duration y => .ok (duration (x.add y))
  | "-", duration x, duration y => .ok (duration (x.sub y))
  | "*", duration x, int n => .ok (duration (x.scale n))
  | "*", int n, duration x => .ok (duration (x.scale n))
  | "+", int x, int y => .ok (int (x + y))
  | "-", int x, int y => .ok (int (x - y))
  | "*", int x, int y => .ok (int (x * y))
  | "+", a, b => a.joined b
  | _, _, _ => .error (.plain .wrongType)

/-- What an operator makes of two values. -/
def operate (symbol : String) (a b : Value) : Except Failure Value :=
  match a, b with
  | expr _, _ => (Promql.plainBinary a (text symbol) b).map expr
  | _, expr _ =>
    if isReflected symbol then (Promql.plainBinary a (text symbol) b).map expr
    else .error (.plain .wrongType)
  | a, b => operatePlain symbol a b

end Value

namespace Recipe

/-- The kind of entity with a name. -/
def kindOf (name : String) : Except Failure Kind :=
  match Catalogue.kind? name with
  | some kind => .ok kind
  | none => .error (.plain .noSuchMember)

mutual

/-- The value of a recipe. -/
def cook : Recipe → Logged Value
  | value v => .value v
  | list items => do return .list (← cookAll items)
  | tuple items => do return .tuple (← cookAll items)
  | map entries => do return .record (← cookEntries entries)
  | build name args given => do
    let args ← cookAll args
    let given ← cookEntries given
    match Catalogue.builder? name with
    | some b => b.call args given
    | none => failPlain .noSuchMember
  | method name on args given => do
    let v ← cook on
    let args ← cookAll args
    let given ← cookEntries given
    return (← v.callMethod name args given).value
  | operate symbol left right => do
    let a ← cook left
    let b ← cook right
    ofExcept (a.operate symbol b)
  | read name data style => do
    let v ← cook data
    Entity.read (← kindOf name) v (Style.ofValue style)
  | parse name document => do
    let v ← cook document
    Entity.parse (← kindOf name) v

/-- The values of recipes, one after the other. -/
def cookAll : List Recipe → Logged (List Value)
  | [] => .value []
  | r :: rs => do
    let v ← cook r
    return v :: (← cookAll rs)

/-- The values of named recipes, one after the other. -/
def cookEntries : List (String × Recipe) → Logged (List (String × Value))
  | [] => .value []
  | (name, r) :: rs => do
    let v ← cook r
    return (name, v) :: (← cookEntries rs)

end

end Recipe

end MonitoringConfig
