import ReviewDesk.Number.Integer
import ReviewDesk.Settings.Values
import ReviewDesk.Site.Fault
import ReviewDesk.Text.Quoted

/-!
# Options of a database

Six options say how a database is opened.  The others are left to the address of its
file, if the path is one.
-/

namespace ReviewDesk
namespace Location

open Text

abbrev OptionList := List (String × List String)

structure Options where
  /-- The path is the address of a file. -/
  isAddress : Bool
  typeFlags : Int
  knowsIsolation : Bool
  keptStatements : Int
  others : OptionList
  deriving DecidableEq

namespace Options

/-!
# Values

A flag that is given more than once is set, and a number cannot be.
-/

def valuesOf (name : String) (options : OptionList) : List String :=
  ((options.find? (·.1 = name)).map (·.2)).getD []

def flagWords : List (String × Bool) :=
  ["true", "yes", "on", "y", "t", "1"].map (·, true) ++
    ["false", "no", "off", "n", "f", "0"].map (·, false)

def flagOf (value : String) : Except LocationFault Bool :=
  (flagWords.lookup (String.ofList ((trim isBlank value.toList).map Char.toLower))).elim
    (.error .badValue) .ok

def flag (name : String) (options : OptionList) : Except LocationFault Bool :=
  match valuesOf name options with
  | [] => .ok false
  | [value] => flagOf value
  | _ => .ok true

def number (read? : String → Option α) (usual : α) (name : String) (options : OptionList) :
    Except LocationFault α :=
  match valuesOf name options with
  | [] => .ok usual
  | [value] => (read? value).elim (.error .badValue) .ok
  | _ => .error .manyValues

def dropUnderscores? : Bool → List Char → Option (List Char)
  | _, [] => some []
  | afterDigit, '_' :: c :: cs =>
      if afterDigit && Integer.isDigit c then (dropUnderscores? true cs).map (c :: ·) else none
  | _, c :: cs =>
      if c = '_' then none
      else (dropUnderscores? (Integer.isDigit c) cs).map (c :: ·)

def binary? (s : String) : Option Binary64 :=
  (dropUnderscores? false (asciiDigits (trim isWhiteSpace s.toList))).bind SettingValue.plainBinary?

/-!
# All options
-/

def usualKeptStatements : Int := 128

def names : List String :=
  ["uri", "timeout", "isolation_level", "detect_types", "check_same_thread", "cached_statements"]

def additionNames : List String := ["plugin", "plugins"]

def read (options : OptionList) : Except LocationFault Options := do
  let isAddress ← flag "uri" options
  let _ ← number binary? .nan "timeout" options
  let typeFlags ← number Integer.read? 0 "detect_types" options
  let _ ← flag "check_same_thread" options
  let keptStatements ← number Integer.read? usualKeptStatements "cached_statements" options
  return {
    isAddress, typeFlags, keptStatements
    knowsIsolation := (valuesOf "isolation_level" options).length ≤ 1
    others := options.filter fun (name, _) => !(names ++ additionNames).contains name }

/-!
# The other options as text
-/

def valueText : List String → String
  | [value] => value
  | values => "(" ++ String.intercalate ", " (values.map quoted) ++ ")"

def sorted (options : OptionList) : OptionList :=
  options.mergeSort fun a b => decide (a.1 ≤ b.1)

def text (o : Options) : String :=
  if o.others.isEmpty then ""
  else "?" ++ String.intercalate "&"
    ((sorted o.others).map fun (name, values) => name ++ "=" ++ valueText values)

end Options
end Location
end ReviewDesk
