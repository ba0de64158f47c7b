import BulkWrite.Identifier
import BulkWrite.Query

/-!
Templates: statements before their names are quoted and their values bound. A
template is fixed text, names and bindings in a row. The SQL text shows a
placeholder where a value is bound, so text, parameters and types all come from
the same row.
-/

namespace BulkWrite

structure Binding where
  value : Value
  type : Option ParamType

inductive Piece where
  | text (s : String)
  | name (column : String)
  | bind (binding : Binding)

abbrev Template := List Piece

namespace Piece

def chars (quoter : Quoter) : Piece → List Char
  | .text s => s.toList
  | .name column => quoter.chars column
  | .bind _ => ['?']

def binding? : Piece → Option Binding
  | .bind binding => some binding
  | _ => none

end Piece

namespace Template

def chars (quoter : Quoter) (template : Template) : List Char :=
  template.flatMap (Piece.chars quoter)

def sql (quoter : Quoter) (template : Template) : String :=
  String.ofList (template.chars quoter)

def bindings (template : Template) : List Binding :=
  template.filterMap Piece.binding?

def params (template : Template) : List Value := template.bindings.map (·.value)

/-- Declared types by position. -/
def types (template : Template) : TypeMap :=
  TypeMap.ofSlots (template.bindings.map (·.type)) 0

/-- Declared types, where the first binding has the start position. -/
def typesFrom (template : Template) (start : UInt64) : TypeMap :=
  TypeMap.ofSlotsFrom (template.bindings.map (·.type)) start

def toQuery (template : Template) (quoter : Quoter) (hint : ReuseHint) :
    Query :=
  ⟨template.sql quoter, template.params, template.types, hint⟩

def commaSeparated (templates : List Template) : Template :=
  List.intercalate [Piece.text ", "] templates

def parenthesised (template : Template) : Template :=
  Piece.text "(" :: template ++ [Piece.text ")"]

@[simp] theorem chars_append (quoter : Quoter) (first second : Template) :
    chars quoter (first ++ second) =
      chars quoter first ++ chars quoter second := by
  simp [chars]

@[simp] theorem bindings_append (first second : Template) :
    bindings (first ++ second) = bindings first ++ bindings second := by
  simp [bindings]

theorem commaSeparated_cons (first : Template) (rest : List Template) :
    commaSeparated (first :: rest) =
      first ++ rest.flatMap ([Piece.text ", "] ++ ·) :=
  intercalate_cons [Piece.text ", "] first rest

@[simp] theorem toList_sql (quoter : Quoter) (template : Template) :
    (template.sql quoter).toList = template.chars quoter := by
  simp [sql]

end Template

end BulkWrite
