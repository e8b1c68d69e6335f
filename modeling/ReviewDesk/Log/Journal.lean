import ReviewDesk.Calendar.Instant
import ReviewDesk.Log.Level
import ReviewDesk.Named

/-!
# The journal

Setting up the journal chooses the level from which records pass and gives it one
handler that writes lines to the console; a handler from an earlier setup is replaced.
The libraries that the services use are kept quieter than the program itself.
-/

namespace ReviewDesk
namespace Log

structure Record where
  source : String
  level : Int
  line : Int
  function : String
  message : String
  time : Int
  tag : Option String
  deriving DecidableEq

structure Handler where
  writesTags : Bool
  deriving DecidableEq

/-- The sources that are in use have levels of their own; those whose own level is unset
go by the sources above them, and finally by the level of the journal. -/
structure Journal where
  level : Level
  handlers : List Handler
  sources : List (String × Level)
  deriving DecidableEq

namespace Journal

def fresh : Journal := ⟨.warning, [], []⟩

/-!
# Sources
-/

def own? (j : Journal) (source : String) : Option Level :=
  j.sources.lookup source

def withOwn (j : Journal) (source : String) (level : Level) : Journal :=
  { j with sources := Named.put source level j.sources }

def mention (j : Journal) (source : String) : Journal :=
  if (j.own? source).isSome then j else j.withOwn source .unset

/-!
# Setting up
-/

def quieter : List (String × Level) :=
  [("httpx", .warning), ("httpcore", .warning), ("openai", .warning),
    ("googleapiclient.discovery_cache", .error)]

def withLevel (j : Journal) (level : Level) : Journal :=
  { j with level := level }

def withoutTagged (j : Journal) : Journal :=
  { j with handlers := j.handlers.filter (!·.writesTags) }

def withTagged (j : Journal) : Journal :=
  { j with handlers := j.handlers ++ [⟨true⟩] }

/-- Work on a journal.  A fault breaks it off, and what was done by then stays done. -/
abbrev Work := ExceptT LevelFault (StateM Journal)

def choosing (name : String) : Work Level :=
  ExceptT.mk (pure (Level.choose name))

def setup (name : String) : Work Unit := do
  let level ← choosing name
  modify (·.withLevel level)
  modify withoutTagged
  modify withTagged
  quieter.forM fun (source, own) => modify (·.withOwn source own)

def perform (j : Journal) (work : Work Unit) : Journal × Except LevelFault Unit :=
  let (result, after) := work.run.run j
  (after, result)

/-!
# Passing records
-/

def nameOf (cs : List Char) : String :=
  String.ofList cs.reverse

/-- The level that a name has from the sources above it, given its characters from the last
one on.  A source stands above a name that goes on with a dot behind it, and the nearest one
in use counts. -/
def inherited (j : Journal) : List Char → Level
  | [] => j.level
  | '.' :: c :: above =>
      match j.own? (nameOf (c :: above)) with
      | none => j.inherited above
      | some own => own.orElse (j.inherited (c :: above))
  | _ :: above => j.inherited above

def threshold (j : Journal) (source : String) : Level :=
  ((j.own? source).getD .unset).orElse (j.inherited source.toList.reverse)

def passes (j : Journal) (r : Record) : Bool :=
  0 < r.level && (j.threshold r.source).value ≤ r.level

/-!
# Lines
-/

def padded (width : Nat) (s : String) : String :=
  s ++ String.ofList (List.replicate (width - s.length) ' ')

def lineOf (r : Record) : String :=
  (Instant.ofSeconds r.time).secondText ++ " | " ++ padded 8 (Level.shown r.level) ++ " | " ++
    r.source ++ ":" ++ r.function ++ ":" ++ toString r.line ++ " | [" ++
    r.tag.getD "-" ++ "] " ++ r.message ++ "\n"

def written (j : Journal) (r : Record) : List String :=
  if j.passes r then (j.handlers.filter (·.writesTags)).map fun _ => lineOf r else []

/-- The records with the journal as each of them finds it, when its source is in use. -/
def occasions (j : Journal) : List Record → List (Journal × Record)
  | [] => []
  | r :: rest => (j.mention r.source, r) :: (j.mention r.source).occasions rest

def console (j : Journal) (records : List Record) : String :=
  String.join ((j.occasions records).flatMap fun (j, r) => j.written r)

end Journal
end Log
end ReviewDesk
