import ReviewDesk.Site.FileAddress
import ReviewDesk.Site.Options
import ReviewDesk.Site.Parts

/-!
# Where the database is

The database is named by an address.  Only databases in files and in memory are
understood, and they have no host.
-/

namespace ReviewDesk

structure Location where
  path : Option String
  options : Location.Options
  deriving DecidableEq

namespace Location

/-!
# Kinds of databases

A kind may have variants, which are named behind a plus sign.  Most of them cannot be
reached from here.
-/

def family : String := "sqlite"

def reachable : List String := ["pysqlite", "base"]

def elsewhere : List (String × List String) :=
  let mysql := ["aiomysql", "asyncmy", "base", "cymysql", "mariadbconnector", "mysqlconnector",
    "mysqldb", "pymysql", "pyodbc"]
  [(family, ["aiosqlite", "pysqlcipher"]), ("mysql", mysql), ("mariadb", mysql),
    ("postgresql", ["asyncpg", "base", "pg8000", "psycopg", "psycopg2", "psycopg2cffi"]),
    ("oracle", ["base", "cx_oracle", "oracledb"]),
    ("mssql", ["aioodbc", "base", "pymssql", "pyodbc"])]

def otherNames : List String :=
  ["BLOB", "BOOLEAN", "CHAR", "DATE", "DATETIME", "DECIMAL", "FLOAT", "INTEGER", "JSON",
    "NUMERIC", "REAL", "SMALLINT", "TEXT", "TIME", "TIMESTAMP", "VARCHAR", "Insert", "insert",
    "dialect", "json", "dml"]

def checkKind (kind : String) : Except LocationFault Unit :=
  match kind.splitOn "+" with
  | [name] =>
      if name = family then .ok ()
      else .error (if (elsewhere.lookup name).isSome then .missingKind else .unknownKind)
  | [name, variant] =>
      if name = family && reachable.contains variant then .ok ()
      else if ((elsewhere.lookup name).getD []).contains variant then .error .missingKind
      else .error (if name = family && otherNames.contains variant then .noVariant
        else .unknownKind)
  | _ => .error .manyVariants

/-!
# Addresses
-/

def portOf : Option String → Except LocationFault Int
  | none => .ok 0
  | some port =>
      if port.isEmpty then .error .emptyPort
      else (Integer.read? port).elim (.error .badPort) .ok

def isHosted (p : Parts) (port : Int) : Bool :=
  !(p.user.isEmpty && p.password.isEmpty && p.host.isEmpty) || port != 0

def ofParts (p : Parts) : Except LocationFault Location := do
  let port ← portOf p.port
  if p.options.any (·.1 = "plugin") then throw .unknownKind
  checkKind p.kind
  if isHosted p port then throw .hosted
  let options ← Options.read p.options
  if options.isAddress && p.path.isNone && !options.others.isEmpty then throw .noPath
  return ⟨p.path, options⟩

def ofAddress (address : String) : Except LocationFault Location :=
  (parts? address).elim (.error .notAddress) ofParts

/-!
# Opening
-/

def memoryName : String := ":memory:"

def filePath? (l : Location) : Option String :=
  l.path.filter fun path => !(path.isEmpty || path == memoryName)

def name? (l : Location) : Option String :=
  if l.options.isAddress then l.path.map (· ++ l.options.text)
  else some (l.filePath?.getD memoryName)

def isLarge (n : Int) : Bool :=
  n < -0x80000000 || 0x80000000 ≤ n

def checkOptions (o : Options) : Except OpeningFault Unit := do
  if isLarge o.typeFlags then throw .largeNumber
  if !o.knowsIsolation then throw .badIsolation
  if isLarge o.keptStatements then throw .largeNumber

def opening (l : Location) : Except OpeningFault Opening := do
  checkOptions l.options
  let name ← l.name?.elim (.error .noName) .ok
  if name.contains (Char.ofNat 0) then throw .zero
  if l.options.isAddress then FileAddress.openingOf name
  else return ⟨l.filePath?, .full⟩

end Location
end ReviewDesk
