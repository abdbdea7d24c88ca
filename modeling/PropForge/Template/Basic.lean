/-!
Templates: literal text, expressions whose values are printed, and tags that choose, repeat or
insert other templates.
-/

namespace PropForge.Template

/-- What a template computes. -/
inductive Expr where
  | name (name : String)
  | text (value : String)
  | number (value : Nat)
  | flag (value : Bool)
  | nothing
  | field (owner : Expr) (name : String)
  | item (owner index : Expr)
  /-- A filter applied to a value, with arguments by position and by name. -/
  | filter (value : Expr) (name : String) (arguments : List Expr)
      (named : List (String × Expr))
  /-- One of two values. Without a second one, the line tells where it is missing. -/
  | choose (test yes : Expr) (no : Option Expr) (line : Nat)
  | either (first second : Expr)
  | both (first second : Expr)
  | negation (value : Expr)
  | equal (first second : Expr)
  deriving Repr

/-- A piece of a template. -/
inductive Piece where
  | text (value : String)
  | output (value : Expr)
  | branch (test : Expr) (yes no : List Piece)
  /-- Runs the body for each item that passes the test, or the last part if none does. -/
  | loop (target : String) (items : Expr) (test : Option Expr) (body otherwise : List Piece)
  | insert (template : String)
  deriving Repr

end PropForge.Template
