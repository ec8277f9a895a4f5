import SqlBuild.Output.ResultSet

/-!
# Types of columns on the wire

A result set names the type of each column. What matters about a type is whether its cells are
numbers, because these stand at the right of their column.
-/

namespace SqlBuild

namespace SqlServer

inductive ColumnType
  | null | bit | int1 | int2 | int4 | int8 | datetime4 | float4 | float8 | money | datetime | money4
  | guid | intn | bitn | decimaln | numericn | floatn | datetimen | daten | timen | datetime2
  | datetimeOffsetn | bigVarBinary | bigVarChar | bigBinary | bigChar | nVarChar | nChar | xml
  | userDefined | text | image | nText | variant
deriving DecidableEq, Repr

namespace ColumnType

def all : List ColumnType :=
  [.null, .bit, .int1, .int2, .int4, .int8, .datetime4, .float4, .float8, .money, .datetime,
    .money4, .guid, .intn, .bitn, .decimaln, .numericn, .floatn, .datetimen, .daten, .timen,
    .datetime2, .datetimeOffsetn, .bigVarBinary, .bigVarChar, .bigBinary, .bigChar, .nVarChar,
    .nChar, .xml, .userDefined, .text, .image, .nText, .variant]

/-- The types of numbers; a bit is one of them. -/
def numericTypes : List ColumnType :=
  [.int1, .int2, .int4, .int8, .intn, .float4, .float8, .floatn, .decimaln, .numericn, .money,
    .money4, .bit, .bitn]

def isNumeric (type : ColumnType) : Bool := numericTypes.contains type

end ColumnType

/-- A column of a result set. -/
structure Column where
  name : Text
  type : ColumnType
deriving DecidableEq, Repr

def Column.header (column : Column) : Header := ⟨column.name, column.type.isNumeric⟩

end SqlServer

end SqlBuild
