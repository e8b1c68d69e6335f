/-!
# The table of reviews
-/

namespace ReviewDesk

inductive ColumnType where
  | text (limit : Option Nat)
  | integer
  | numeric (digits places : Nat)
  | time
  deriving DecidableEq

namespace ColumnType

def name : ColumnType → String
  | text none => "VARCHAR"
  | text (some n) => s!"VARCHAR({n})"
  | integer => "INTEGER"
  | numeric digits places => s!"NUMERIC({digits}, {places})"
  | time => "DATETIME"

end ColumnType

structure ColumnInfo where
  name : String
  type : ColumnType
  nullable : Bool
  isKey : Bool
  deriving DecidableEq

namespace Schema

def tableName : String := "reviews"

def required (name : String) (type : ColumnType) : ColumnInfo := ⟨name, type, false, false⟩
def optional (name : String) (type : ColumnType) : ColumnInfo := ⟨name, type, true, false⟩

def status (name : String) : ColumnInfo := required name (.text (some 7))

def columns : List ColumnInfo :=
  [⟨"id", .text (some 32), false, true⟩, required "title" (.text (some 100)),
    required "original_content" (.text none), optional "improved_content" (.text none),
    optional "model" (.text none), optional "token_count" .integer,
    optional "usd_cost" (.numeric 18 6), optional "krw_cost" (.numeric 18 2),
    optional "google_file_id" (.text none), status "openai_status", status "currency_status",
    status "drive_status", optional "warning_message" (.text (some 500)),
    required "created_at" .time]

/-!
# The statement that makes the table
-/

def ColumnInfo.definition (c : ColumnInfo) : String :=
  c.name ++ " " ++ c.type.name ++ (if c.nullable then "" else " NOT NULL")

def keyClause (columns : List ColumnInfo) : String :=
  "PRIMARY KEY (" ++ String.intercalate ", " ((columns.filter (·.isKey)).map (·.name)) ++ ")"

def statement : String :=
  "CREATE TABLE " ++ tableName ++ " (\n\t" ++
    String.intercalate ",\n\t" (columns.map ColumnInfo.definition ++ [keyClause columns]) ++
    "\n);\n"

end Schema
end ReviewDesk
