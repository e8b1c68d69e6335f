import ReviewDesk.Text.Template.Value

/-!
# Templates

Filling a template in puts a written value in each of its places; a doubled brace stands
for the brace itself.  The layout of a place may have places of its own, but these may
not go any deeper.  Places are filled in from left to right, so that the first fault on
the way is the one that counts.
-/

namespace ReviewDesk
namespace Text
namespace Template

abbrev Inner := List Char → Except TemplateFault (List Char)

def written (values : List (String × String)) (inner : Inner) (p : Place) :
    Except TemplateFault (List Char) := do
  let value ← (← lookup values p.name).formed p.form
  let layout ← if p.layout.contains '\x7b' then inner p.layout else .ok p.layout
  value.written layout

def fillFrom (values : List (String × String)) (inner : Inner) :
    Nat → List Char → Except TemplateFault (List Char)
  | 0, _ => .ok []
  | _, [] => .ok []
  | fuel + 1, '\x7b' :: '\x7b' :: rest => do
      return '\x7b' :: (← fillFrom values inner fuel rest)
  | fuel + 1, '\x7d' :: '\x7d' :: rest => do
      return '\x7d' :: (← fillFrom values inner fuel rest)
  | fuel + 1, '\x7b' :: rest =>
      match place? rest with
      | none => .error .malformed
      | some (p, rest) => do
          let value ← written values inner p
          return value ++ (← fillFrom values inner fuel rest)
  | _ + 1, '\x7d' :: _ => .error .malformed
  | fuel + 1, c :: rest => do
      return c :: (← fillFrom values inner fuel rest)

def fillList (values : List (String × String)) (inner : Inner) (cs : List Char) :
    Except TemplateFault (List Char) :=
  fillFrom values inner cs.length cs

def tooDeep : Inner := fun _ => .error .malformed

def fill (values : List (String × String)) (template : String) : Except TemplateFault String := do
  let cs ← fillList values (fillList values tooDeep) template.toList
  return String.ofList cs

end Template
end Text
end ReviewDesk
