import ReviewDesk.Text.Digit
import ReviewDesk.Text.Quoted
import ReviewDesk.Text.Template.Layout

/-!
# Values of places

The values of a template are texts.  A place may go on to a part of its value: to a
character by its position, or to a part that has a name, such as the kind of the value,
which has a name and a more general kind in turn.
-/

namespace ReviewDesk
namespace Text
namespace Template

/-- A value and the things that its parts lead to: kinds, rows of kinds, what can be
done with a value, and the definition of that in a kind. -/
inductive Value where
  | text (cs : List Char)
  | kind (name : String)
  | kinds (names : List String)
  | action (name : String)
  | definition (name : String)
  | nothing
  deriving DecidableEq

namespace Value

/-!
# Names of parts
-/

def commonActions : List String :=
  ["__delattr__", "__dir__", "__eq__", "__format__", "__ge__", "__getattribute__",
    "__getstate__", "__gt__", "__hash__", "__init__", "__init_subclass__", "__le__", "__lt__",
    "__ne__", "__new__", "__reduce__", "__reduce_ex__", "__repr__", "__setattr__",
    "__sizeof__", "__str__", "__subclasshook__"]

def textActions : List String :=
  commonActions ++
    ["__add__", "__contains__", "__getitem__", "__getnewargs__", "__iter__", "__len__",
      "__mod__", "__mul__", "__rmod__", "__rmul__", "capitalize", "casefold", "center",
      "count", "encode", "endswith", "expandtabs", "find", "format", "format_map", "index",
      "isalnum", "isalpha", "isascii", "isdecimal", "isdigit", "isidentifier", "islower",
      "isnumeric", "isprintable", "isspace", "istitle", "isupper", "join", "ljust", "lower",
      "lstrip", "maketrans", "partition", "removeprefix", "removesuffix", "replace", "rfind",
      "rindex", "rjust", "rpartition", "rsplit", "rstrip", "split", "splitlines",
      "startswith", "strip", "swapcase", "title", "translate", "upper", "zfill"]

def kindActions : List String :=
  ["__call__", "__instancecheck__", "__prepare__", "__subclasscheck__", "__subclasses__",
    "__or__", "__ror__", "mro"]

def rowActions : List String :=
  commonActions ++
    ["__add__", "__class_getitem__", "__contains__", "__getitem__", "__getnewargs__",
      "__iter__", "__len__", "__mul__", "__rmul__", "count", "index"]

def generalActions : List String :=
  ["__delattr__", "__dir__", "__getstate__", "__init__", "__reduce__", "__reduce_ex__",
    "__setattr__"]

def looseActions : List String :=
  ["__init_subclass__", "__new__", "__subclasshook__", "maketrans"]

def calledActions : List String :=
  ["__dir__", "__format__", "__getnewargs__", "__getstate__", "__reduce__", "__reduce_ex__",
    "__sizeof__"]

def textDescription : String :=
  "str(object='') -> str\nstr(bytes_or_buffer[, encoding[, errors]]) -> str\n\n" ++
    "Create a new string object from the given object. If encoding or\n" ++
    "errors is specified, then the object must expose a data buffer\n" ++
    "that will be decoded using the given encoding and error handler.\n" ++
    "Otherwise, returns the result of object.__str__() (if defined)\n" ++
    "or repr(object).\n" ++
    "encoding defaults to sys.getdefaultencoding().\n" ++
    "errors defaults to 'strict'."

/-!
# How values are shown
-/

def isSlot (name : String) : Bool :=
  name.startsWith "__" && !(calledActions ++ looseActions).contains name

def ownerKind (name : String) : String :=
  if generalActions.contains name then "object" else "str"

def shownDefinition (name : String) : String :=
  (if isSlot name then "<slot wrapper '" else "<method '") ++ name ++ "' of '" ++
    ownerKind name ++ "' objects>"

def shownKind (name : String) : String :=
  "<class '" ++ name ++ "'>"

def shownKinds : List String → String
  | [name] => "(" ++ shownKind name ++ ",)"
  | names => "(" ++ String.intercalate ", " (names.map shownKind) ++ ")"

def shown : Value → List Char
  | text cs => cs
  | kind name => (shownKind name).toList
  | kinds names => (shownKinds names).toList
  | action name => ("<built-in method " ++ name ++ " of str object>").toList
  | definition name => (shownDefinition name).toList
  | nothing => "None".toList

def quoted : Value → List Char
  | text cs => (Text.quoted (String.ofList cs)).toList
  | v => v.shown

/-!
# Parts
-/

def actionKind (name : String) : String :=
  if isSlot name then "method-wrapper" else "builtin_function_or_method"

def definitionKind (name : String) : String :=
  if isSlot name then "wrapper_descriptor" else "method_descriptor"

def kindName : Value → String
  | text _ => "str"
  | kind _ => "type"
  | kinds _ => "tuple"
  | action name => actionKind name
  | definition name => definitionKind name
  | nothing => "NoneType"

def isGeneral (kind : String) : Bool :=
  kind == "object"

def generalKinds (kind : String) : List String :=
  if isGeneral kind then [] else ["object"]

def kindPart (kind name : String) : Option Value :=
  if name = "__name__" || name = "__qualname__" then some (text kind.toList)
  else if name = "__module__" then some (text "builtins".toList)
  else if name = "__base__" then
    some (if isGeneral kind then .nothing else .kind "object")
  else if name = "__bases__" then some (.kinds (generalKinds kind))
  else if name = "__mro__" then some (.kinds (kind :: generalKinds kind))
  else if name = "__doc__" && kind = "str" then some (text textDescription.toList)
  else if kind = "str" && (looseActions ++ kindActions).contains name then some (action name)
  else if kind = "str" && textActions.contains name then some (definition name)
  else if (commonActions ++ kindActions).contains name then some (action name)
  else none

def actionPart (name part : String) : Option Value :=
  if part = "__name__" then some (text name.toList)
  else if part = "__qualname__" then some (text ("str." ++ name).toList)
  else if part = "__module__" && !isSlot name then some .nothing
  else if part = "__objclass__" && isSlot name then some (kind (ownerKind name))
  else if commonActions.contains part || part = "__call__" then some (action part)
  else none

def definitionPart (name part : String) : Option Value :=
  if part = "__objclass__" then some (kind (ownerKind name))
  else if part = "__qualname__" then some (text (ownerKind name ++ "." ++ name).toList)
  else if part = "__module__" then none
  else if part = "__get__" then some (action part)
  else actionPart name part

def actionsPart (actions : List String) (name : String) : Option Value :=
  if actions.contains name then some (action name) else none

def part? (v : Value) (name : String) : Option Value :=
  if name = "__class__" then some (kind v.kindName)
  else
    match v with
    | text _ => if name = "__doc__" then some (text textDescription.toList)
        else actionsPart textActions name
    | kind k => kindPart k name
    | kinds _ => actionsPart rowActions name
    | action a => actionPart a name
    | definition d => definitionPart d name
    | nothing => actionsPart ("__bool__" :: commonActions) name

def item (v : Value) (position : Option Nat) : Except TemplateFault Value :=
  match v, position with
  | text cs, some n =>
      match cs[n]? with
      | some c => .ok (text [c])
      | none => .error .noPosition
  | kinds names, some n =>
      match names[n]? with
      | some name => .ok (kind name)
      | none => .error .noPosition
  | _, _ => .error .wrongKind

/-!
# Forms
-/

def plainAscii (c : Char) : List Char :=
  if c.toNat < 0x80 then [c] else numberedChar c

def formed (form : Option Char) (v : Value) : Except TemplateFault Value :=
  match form with
  | none => .ok v
  | some 's' => .ok (text v.shown)
  | some 'r' => .ok (text v.quoted)
  | some 'a' => .ok (text (v.quoted.flatMap plainAscii))
  | some _ => .error .malformed

def written (layout : List Char) (v : Value) : Except TemplateFault (List Char) :=
  match v, layout with
  | v, [] => .ok v.shown
  | text cs, layout => laidOut layout cs
  | _, _ => .error .wrongKind

end Value

/-!
# Following a name
-/

def isPartMark (c : Char) : Bool :=
  c == '.' || c == '['

def position (key : List Char) : Except TemplateFault (Option Nat) := do
  let (n, rest) ← numberFrom 0 key
  return if rest.isEmpty && !key.isEmpty then some n else none

def follow : Nat → List Char → Value → Except TemplateFault Value
  | _, [], v => .ok v
  | fuel + 1, '.' :: cs, v =>
      let name := cs.takeWhile (!isPartMark ·)
      if name.isEmpty then .error .malformed
      else
        match v.part? (String.ofList name) with
        | some part => follow fuel (cs.dropWhile (!isPartMark ·)) part
        | none => .error .noPart
  | fuel + 1, '[' :: cs, v =>
      let key := cs.takeWhile (· != ']')
      match cs.dropWhile (· != ']') with
      | [] => .error .malformed
      | _ :: rest => do
          let n ← position key
          if key.isEmpty then .error .malformed
          follow fuel rest (← v.item n)
  | _, _, _ => .error .malformed

def lookup (values : List (String × String)) (name : List Char) : Except TemplateFault Value := do
  let first := name.takeWhile (!isPartMark ·)
  let n ← position first
  if n.isSome || first.isEmpty then .error .noPosition
  else
    match values.lookup (String.ofList first) with
    | some value => follow name.length (name.dropWhile (!isPartMark ·)) (.text value.toList)
    | none => .error (.unknownName (String.ofList first))

end Template
end Text
end ReviewDesk
