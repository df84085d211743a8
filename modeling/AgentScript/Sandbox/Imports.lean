import AgentScript.Sandbox.Tree

set_option autoImplicit false

/-! # The modules that code imports

The tree of a text of code is walked level by level: all statements of a level come before those
nested in them. The first part of every absolute module name is collected where it first occurs. -/

namespace AgentScript.Sandbox

/-- The statements and handlers directly inside a tree, in order. -/
def Tree.children : Tree → List Tree
  | .simple _ => []
  | .branch body orElse => body ++ orElse
  | .scope body | .handler body => body
  | .attempt body handlers orElse atLast => body ++ handlers ++ orElse ++ atLast

mutual

/-- How many levels a tree has. -/
def Tree.depth : Tree → Nat
  | .simple _ => 1
  | .branch body orElse => 1 + max (depths body) (depths orElse)
  | .scope body | .handler body => 1 + depths body
  | .attempt body handlers orElse atLast =>
    1 + max (max (depths body) (depths handlers)) (max (depths orElse) (depths atLast))

/-- How many levels the deepest of some trees has. -/
def depths : List Tree → Nat
  | [] => 0
  | t :: rest => max t.depth (depths rest)

end

/-- The trees of a given number of levels, level by level. -/
def levels : Nat → List Tree → List Tree
  | 0, _ => []
  | n + 1, trees => trees ++ levels n (trees.flatMap Tree.children)

/-- All trees inside some trees, level by level. -/
def walk (trees : List Tree) : List Tree :=
  levels (depths trees) trees

/-- The modules that a statement itself imports, each by the first part of its name. -/
def Tree.imported : Tree → List String
  | .simple (.importModules modules) => modules.filterMap fun m => m.path.head?
  | .simple (.importFrom _ 0 module _) => module.head?.toList
  | _ => []

/-- A name is added unless it is there already. -/
def addName (names : List String) (name : String) : List String :=
  if names.contains name then names else names ++ [name]

/-- The modules that trees import. -/
def importsOf (trees : List Tree) : List String :=
  ((walk trees).flatMap Tree.imported).foldl addName []

/-- The modules that a text of code imports. -/
def findImports (code : String) : Except Failure (List String) :=
  (treesOf code).map importsOf

end AgentScript.Sandbox
