import ReviewDesk.Json.Shown
import ReviewDesk.Polish.Reasoning

/-!
# Replies of the chat model

A reply holds a text, or a list of blocks some of which are texts, and tells the
model and the number of tokens in one of two places.  Nothing in it can be relied
on, so every part is read with the kinds of values that it may turn out to be.  What
the log says of a reply is written before the reply counts as read.
-/

namespace ReviewDesk

open Text

structure ModelReply where
  content : Json
  metadata : Json
  usage : Json

/-- A polished review.  The name of the model is whatever the reply gave. -/
structure Polished where
  content : List Mark
  model : Json
  promptTokens : Int
  completionTokens : Int

namespace Polished

def totalTokens (p : Polished) : Int :=
  p.promptTokens + p.completionTokens

end Polished

namespace ModelReply

/-!
# The text
-/

def blockText : Json → Except Fault (List Mark)
  | .object members =>
      match members.lookup "type" with
      | some (.string "text") =>
          match ((members.lookup "text").getD (.string "")).marks? with
          | some ms => .ok ms
          | none => .error (.wrongKind "a text block without text")
      | _ => .ok []
  | block => .ok (block.marks?.getD [])

def joinBlocks : List Json → Except Fault (List Mark)
  | [] => .ok []
  | block :: rest => do
      let ms ← blockText block
      let more ← joinBlocks rest
      return ms ++ more

def messageText : Json → Except Fault (List Mark)
  | .array blocks => joinBlocks blocks
  | v =>
      match v.marks? with
      | some ms => .ok ms
      | none => if v.isAbsent then .ok [] else .error (.wrongKind "a message without text")

/-!
# Objects that may be missing
-/

def members (v : Json) : Except Fault (List (String × Json)) :=
  if v.isAbsent then .ok []
  else
    match v with
    | .object ms => .ok ms
    | _ => .error (.noSuchAttribute "a value without members")

/-!
# Token counts
-/

def wholeNumber : Json → Except Fault Int
  | .int n => .ok n
  | .bool b => .ok (if b then 1 else 0)
  | .double x =>
      match x with
      | .nan => .error (.badValue "not a number")
      | x =>
          match x.truncate? with
          | some n => .ok n
          | none => .error (.overflow "an infinite number")
  | .string s =>
      match Integer.read? s with
      | some n => .ok n
      | none => .error (.badValue "not a whole number")
  | .unpaired _ => .error (.badValue "not a whole number")
  | _ => .error (.wrongKind "not a number")

def countIn (ms : List (String × Json)) (name : String) : Except Fault Int :=
  wholeNumber ((ms.lookup name).getD (.int 0))

def presentCountIn (ms : List (String × Json)) (name : String) : Except Fault Int :=
  let v := (ms.lookup name).getD .null
  if v.isAbsent then .ok 0 else wholeNumber v

def tokens (r : ModelReply) : Except Fault (Int × Int) := do
  if r.usage.isAbsent then
    let ms ← members r.metadata
    let usage ← members ((ms.lookup "token_usage").getD .null)
    return (← presentCountIn usage "prompt_tokens", ← presentCountIn usage "completion_tokens")
  else
    let ms ← members r.usage
    return (← countIn ms "input_tokens", ← countIn ms "output_tokens")

/-!
# The reply as a whole
-/

def emptyText : String := "模型返回内容为空"

/-- A reply that something else than its own end broke off is noted with what it was. -/
def noteEnding (metadata : List (String × Json)) : Except Fault Unit := do
  match (metadata.lookup "finish_reason").getD .null with
  | .string "stop" => return
  | ending =>
      if ending.isAbsent then return
      else
        let _ ← ending.written
        return

def notePolished (model : Json) (promptTokens completionTokens : Int) : Except Fault Unit := do
  let _ ← model.written
  let _ ← (Json.int promptTokens).written
  let _ ← (Json.int completionTokens).written

/-- Reads a reply; `configured` is the model that was asked. -/
def read (configured : String) (r : ModelReply) : Except Fault (Outcome Polished) := do
  let content := Reasoning.clean (← messageText r.content)
  if content.isEmpty then return .refuse .invalidResponse emptyText
  else
    let ms ← members r.metadata
    noteEnding ms
    let (promptTokens, completionTokens) ← r.tokens
    let named := (ms.lookup "model_name").getD .null
    let model := if named.isAbsent then .string configured else named
    notePolished model promptTokens completionTokens
    return .success ⟨content, model, promptTokens, completionTokens⟩

end ModelReply
end ReviewDesk
