/-!
Configuration values: what a TOML document holds.
-/
namespace Boundary

inductive Toml where
  | string (s : String)
  | integer (n : Int)
  | float (lexeme : String)
  | bool (b : Bool)
  | datetime (lexeme : String)
  | array (items : List Toml)
  | table (entries : List (String × Toml))
  /-- A number by its form that nothing can hold. It may stand where nothing looks at it. -/
  | unreadable (lexeme : String)
  deriving Repr, Inhabited

namespace Toml

mutual
/-- The value can be read all through. -/
def readable : Toml → Bool
  | .array items => readableItems items
  | .table entries => readableEntries entries
  | .unreadable _ => false
  | _ => true
def readableItems : List Toml → Bool
  | [] => true
  | v :: rest => v.readable && readableItems rest
def readableEntries : List (String × Toml) → Bool
  | [] => true
  | (_, v) :: rest => v.readable && readableEntries rest
end

end Toml
end Boundary
