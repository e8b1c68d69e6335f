import ReviewDesk.Proofs.Json.Shown
import ReviewDesk.Proofs.Polish.Polisher

/-!
# Replies of the expected kinds

A reply has a text, or parts some of which are texts, and tells the model and the numbers
of tokens in records that may be missing.  A reply of these kinds is always read, unless
the log cannot write what it says.  It is read by its text alone if nothing is left of it,
and its counts come from one record only.
-/

namespace ReviewDesk
namespace ModelReply

open Text

variable {r : ModelReply}

/-!
# The text

Content is missing, a text, or a list of parts.  A part has a text if it is a string,
whatever marks that has, or a block that is said to be a text.
-/

def partText? : Json → Option (List Mark)
  | .string s => some s
  | .unpaired ms => some ms
  | .object ms =>
      match ms.lookup "type", ms.lookup "text" with
      | some (.string "text"), some text => text.marks?
      | _, _ => none
  | _ => none

def IsPart (part : Json) : Prop :=
  ∀ ms, part = .object ms → ms.lookup "type" = some (.string "text") →
    ∃ text marks, ms.lookup "text" = some text ∧ text.marks? = some marks

def joined (parts : List Json) : List Mark :=
  (parts.filterMap partText?).flatten

/-- No content, a text, or a list of parts. -/
inductive IsContent : Json → Prop where
  | none : IsContent .null
  | text (ms : List Mark) : IsContent (.ofMarks ms)
  | parts {parts : List Json} (h : ∀ part ∈ parts, IsPart part) : IsContent (.array parts)

theorem IsContent.isPart {content : Json} (h : IsContent content) {parts : List Json}
    (hparts : content = .array parts) : ∀ part ∈ parts, IsPart part := by
  cases h with
  | none => cases hparts
  | text ms =>
      have hmarks := Json.marks?_ofMarks ms
      rw [hparts] at hmarks
      cases hmarks
  | parts h =>
      cases hparts
      exact h

def textOf : Json → List Mark
  | .string s => s
  | .unpaired ms => ms
  | .array parts => joined parts
  | _ => []

theorem textOf_of_marks? {v : Json} {ms : List Mark} (h : v.marks? = some ms) :
    textOf v = ms := by
  cases v with
  | string s => exact Option.some.inj h
  | unpaired marks => exact Option.some.inj h
  | null => cases h
  | bool b => cases h
  | int n => cases h
  | double x => cases h
  | array items => cases h
  | object members => cases h

theorem blockText_of_isPart {part : Json} (h : IsPart part) :
    blockText part = .ok ((partText? part).getD []) := by
  cases part with
  | object ms =>
      unfold blockText partText?
      dsimp only
      split
      · rename_i htype
        rcases h ms rfl htype with ⟨text, marks, htext, hmarks⟩
        simp [htype, htext, hmarks]
      · rename_i hother
        split
        · rename_i htype _
          exact absurd htype hother
        · rfl
  | string s => rfl
  | unpaired marks => rfl
  | null => rfl
  | bool b => rfl
  | int n => rfl
  | double x => rfl
  | array items => rfl

theorem joinBlocks_of_isPart {parts : List Json} (h : ∀ part ∈ parts, IsPart part) :
    joinBlocks parts = .ok (joined parts) := by
  induction parts with
  | nil => rfl
  | cons part parts ih =>
      have hpart := blockText_of_isPart (h part List.mem_cons_self)
      have hparts := ih fun other hother => h other (List.mem_cons_of_mem part hother)
      rw [joinBlocks, hpart, hparts, joined, joined, List.filterMap_cons]
      cases partText? part with
      | none => simp [bind, Except.bind, pure, Except.pure]
      | some ms => simp [bind, Except.bind, pure, Except.pure]

theorem messageText_ofMarks (ms : List Mark) : messageText (.ofMarks ms) = .ok ms := by
  have hmarks := Json.marks?_ofMarks ms
  unfold messageText
  split
  · rename_i hparts
    rw [hparts] at hmarks
    cases hmarks
  · rw [hmarks]

theorem messageText_of_isContent {content : Json} (h : IsContent content) :
    messageText content = .ok (textOf content) := by
  cases h with
  | none => rfl
  | text ms => rw [messageText_ofMarks, textOf_of_marks? (Json.marks?_ofMarks ms)]
  | parts h => exact joinBlocks_of_isPart h

/-!
# Records

A record is an object or nothing.  What is only looked at where it is needed is a loose
record, which may be anything that counts as not given.
-/

def named (r : ModelReply) : Json :=
  match r.metadata with
  | .object ms => (ms.lookup "model_name").getD .null
  | _ => .null

def modelOr (configured : String) (r : ModelReply) : Json :=
  if r.named.isAbsent then .string configured else r.named

theorem members_of_isAbsent {v : Json} (h : v.isAbsent = true) : members v = .ok [] := by
  simp [members, h]

def IsRecord (v : Json) : Prop :=
  v = .null ∨ ∃ ms, v = .object ms

def IsLooseRecord (v : Json) : Prop :=
  v.isAbsent = true ∨ ∃ ms, v = .object ms

def fields : Json → List (String × Json)
  | .object ms => ms
  | _ => []

theorem members_of_isRecord {v : Json} (h : IsRecord v) : members v = .ok (fields v) := by
  rcases h with rfl | ⟨ms, rfl⟩
  · rfl
  · cases ms with
    | nil => rfl
    | cons m ms => rfl

theorem isAbsent_of_isRecord {v : Json} (h : IsRecord v) :
    v.isAbsent = true ↔ fields v = [] := by
  rcases h with rfl | ⟨ms, rfl⟩
  · exact iff_of_true rfl rfl
  · exact List.isEmpty_iff

theorem named_eq (r : ModelReply) :
    r.named = ((fields r.metadata).lookup "model_name").getD .null := by
  unfold named fields
  split
  · rfl
  · rfl

/-!
# Token counts

Both counts are those of the usage record if it has any field, and else both are those of
the record in the metadata; a number that is not told counts as zero.
-/

def count (ms : List (String × Json)) (name : String) : Int :=
  match ms.lookup name with
  | some (.int n) => n
  | _ => 0

def tokenUsage (r : ModelReply) : Json :=
  ((fields r.metadata).lookup "token_usage").getD .null

def counts (r : ModelReply) : Int × Int :=
  if fields r.usage = [] then
    (count (fields r.tokenUsage) "prompt_tokens", count (fields r.tokenUsage) "completion_tokens")
  else (count (fields r.usage) "input_tokens", count (fields r.usage) "output_tokens")

def IsCount (ms : List (String × Json)) (name : String) : Prop :=
  ∀ v, ms.lookup name = some v → ∃ n, v = .int n

def IsLooseCount (ms : List (String × Json)) (name : String) : Prop :=
  ∀ v, ms.lookup name = some v → v = .null ∨ ∃ n, v = .int n

theorem countIn_of_isCount {ms : List (String × Json)} {name : String} (h : IsCount ms name) :
    countIn ms name = .ok (count ms name) := by
  unfold countIn count
  cases hfound : ms.lookup name with
  | none => rfl
  | some v =>
      rcases h v hfound with ⟨n, rfl⟩
      rfl

theorem presentCountIn_of_isLooseCount {ms : List (String × Json)} {name : String}
    (h : IsLooseCount ms name) : presentCountIn ms name = .ok (count ms name) := by
  unfold presentCountIn count
  cases hfound : ms.lookup name with
  | none => rfl
  | some v =>
      rcases h v hfound with rfl | ⟨n, rfl⟩
      · rfl
      · dsimp only [Option.getD_some]
        split
        · rename_i hzero
          have hn : n = 0 := by simpa [Json.isAbsent] using hzero
          rw [hn]
        · rfl

def ending (r : ModelReply) : Json :=
  ((fields r.metadata).lookup "finish_reason").getD .null

/-- A reply of the expected kinds.  The record in the metadata has to be one only where
the usage record tells nothing. -/
structure IsRegular (r : ModelReply) : Prop where
  content : IsContent r.content
  metadata : IsRecord r.metadata
  usage : IsRecord r.usage
  input : IsCount (fields r.usage) "input_tokens"
  output : IsCount (fields r.usage) "output_tokens"
  tokenUsage : fields r.usage = [] → IsLooseRecord r.tokenUsage
  prompt : fields r.usage = [] → IsLooseCount (fields r.tokenUsage) "prompt_tokens"
  completion : fields r.usage = [] → IsLooseCount (fields r.tokenUsage) "completion_tokens"

structure IsLoggable (r : ModelReply) : Prop where
  ending : r.ending.IsWritable
  named : r.named.IsWritable
  prompt : IsShort r.counts.1
  completion : IsShort r.counts.2

theorem members_of_isLooseRecord {v : Json} (h : IsLooseRecord v) :
    members v = .ok (fields v) := by
  rcases h with h | ⟨ms, rfl⟩
  · rw [members_of_isAbsent h]
    cases v with
    | object ms => rw [fields, List.isEmpty_iff.mp h]
    | null => rfl
    | bool b => rfl
    | int n => rfl
    | double x => rfl
    | string s => rfl
    | unpaired marks => rfl
    | array items => rfl
  · exact members_of_isRecord (Or.inr ⟨ms, rfl⟩)

theorem tokens_of_isRegular (h : r.IsRegular) : r.tokens = .ok r.counts := by
  have habsent := isAbsent_of_isRecord h.usage
  unfold tokens counts
  by_cases hempty : fields r.usage = []
  · have hrecord : members (((fields r.metadata).lookup "token_usage").getD .null) =
        .ok (fields r.tokenUsage) := members_of_isLooseRecord (h.tokenUsage hempty)
    rw [if_pos (habsent.mpr hempty), if_pos hempty, members_of_isRecord h.metadata]
    dsimp only [bind, Except.bind]
    rw [hrecord]
    dsimp only
    rw [presentCountIn_of_isLooseCount (h.prompt hempty),
      presentCountIn_of_isLooseCount (h.completion hempty)]
    rfl
  · rw [if_neg (mt habsent.mp hempty), if_neg hempty, members_of_isRecord h.usage]
    dsimp only [bind, Except.bind]
    rw [countIn_of_isCount h.input, countIn_of_isCount h.output]
    rfl

/-!
# What the log says

The log names the end of the reply, unless it is the usual one, and the model and both
counts of a polished review.
-/

theorem noteEnding_eq {ms : List (String × Json)} :
    (((ms.lookup "finish_reason").getD .null).IsWritable → noteEnding ms = .ok ()) ∧
      (¬ ((ms.lookup "finish_reason").getD .null).IsWritable →
        noteEnding ms = .error (.badValue Json.tooLong)) := by
  unfold noteEnding
  generalize (ms.lookup "finish_reason").getD .null = ending
  split
  · exact ⟨fun _ => rfl, fun h => absurd (Json.isWritable_string _) h⟩
  · split
    · rename_i habsent
      exact ⟨fun _ => rfl, fun h => absurd (Json.isWritable_of_isAbsent habsent) h⟩
    · constructor
      · intro h
        rw [Json.written_eq_ok h]
        rfl
      · intro h
        rw [Json.written_eq_error h]
        rfl

theorem notePolished_eq_ok {model : Json} {promptTokens completionTokens : Int}
    (hmodel : model.IsWritable) (hprompt : IsShort promptTokens)
    (hcompletion : IsShort completionTokens) :
    notePolished model promptTokens completionTokens = .ok () := by
  rw [notePolished, Json.written_eq_ok hmodel,
    Json.written_eq_ok (Json.isWritable_int.mpr hprompt),
    Json.written_eq_ok (Json.isWritable_int.mpr hcompletion)]
  rfl

theorem notePolished_eq_error {model : Json} {promptTokens completionTokens : Int}
    (h : ¬ (model.IsWritable ∧ IsShort promptTokens ∧ IsShort completionTokens)) :
    notePolished model promptTokens completionTokens = .error (.badValue Json.tooLong) := by
  unfold notePolished
  by_cases hmodel : model.IsWritable
  · rw [Json.written_eq_ok hmodel]
    by_cases hprompt : IsShort promptTokens
    · have hcompletion : ¬ IsShort completionTokens := fun hc => h ⟨hmodel, hprompt, hc⟩
      rw [Json.written_eq_ok (Json.isWritable_int.mpr hprompt),
        Json.written_eq_error (mt Json.isWritable_int.mp hcompletion)]
      rfl
    · rw [Json.written_eq_error (mt Json.isWritable_int.mp hprompt)]
      rfl
  · rw [Json.written_eq_error hmodel]
    rfl

theorem isWritable_modelOr {configured : String} :
    (r.modelOr configured).IsWritable ↔ r.named.IsWritable := by
  unfold modelOr
  split
  · rename_i habsent
    exact iff_of_true (Json.isWritable_string configured) (Json.isWritable_of_isAbsent habsent)
  · exact Iff.rfl

/-!
# The reply as a whole
-/

theorem read_of_no_text {content : Json} (h : IsContent content)
    (hclean : Reasoning.clean (textOf content) = []) (metadata usage : Json)
    (configured : String) :
    (ModelReply.mk content metadata usage).read configured =
      .ok (.refuse .invalidResponse emptyText) := by
  simp [read, messageText_of_isContent h, hclean, bind, Except.bind, pure, Except.pure]

theorem read_of_text {configured : String} {ms : List (String × Json)} {text : List Mark}
    {counts : Int × Int} (htext : messageText r.content = .ok text)
    (hclean : Reasoning.clean text ≠ []) (hms : members r.metadata = .ok ms)
    (hnamed : r.named = (ms.lookup "model_name").getD .null)
    (hending : noteEnding ms = .ok ()) (htokens : r.tokens = .ok counts) :
    r.read configured =
      (notePolished (r.modelOr configured) counts.1 counts.2).map fun _ =>
        .success ⟨Reasoning.clean text, r.modelOr configured, counts.1, counts.2⟩ := by
  have hmodel : (if r.named.isAbsent then Json.string configured else r.named) =
      r.modelOr configured := rfl
  simp [read, htext, hclean, hms, hending, htokens, ← hnamed, hmodel, bind, Except.bind, pure,
    Except.pure]
  rfl

theorem read_of_isLoggable (h : r.IsRegular) (hloggable : r.IsLoggable)
    (hclean : Reasoning.clean (textOf r.content) ≠ []) (configured : String) :
    r.read configured =
      .ok (.success
        ⟨Reasoning.clean (textOf r.content), r.modelOr configured, r.counts.1,
          r.counts.2⟩) := by
  rw [read_of_text (messageText_of_isContent h.content) hclean (members_of_isRecord h.metadata)
    (named_eq r) (noteEnding_eq.left hloggable.ending) (tokens_of_isRegular h),
    notePolished_eq_ok (isWritable_modelOr.mpr hloggable.named) hloggable.prompt
      hloggable.completion]
  rfl

theorem read_of_not_isLoggable (h : r.IsRegular) (hnot : ¬ r.IsLoggable)
    (hclean : Reasoning.clean (textOf r.content) ≠ []) (configured : String) :
    r.read configured = .error (.badValue Json.tooLong) := by
  have htext := messageText_of_isContent h.content
  have hms := members_of_isRecord h.metadata
  by_cases hending : r.ending.IsWritable
  · have hrest : ¬ ((r.modelOr configured).IsWritable ∧ IsShort r.counts.1 ∧
        IsShort r.counts.2) := by
      rintro ⟨hmodel, hprompt, hcompletion⟩
      exact hnot ⟨hending, isWritable_modelOr.mp hmodel, hprompt, hcompletion⟩
    rw [read_of_text htext hclean hms (named_eq r) (noteEnding_eq.left hending)
      (tokens_of_isRegular h), notePolished_eq_error hrest]
    rfl
  · have hnote : noteEnding (fields r.metadata) = .error (.badValue Json.tooLong) :=
      noteEnding_eq.right hending
    simp [read, htext, hclean, hms, hnote, bind, Except.bind]

theorem read_of_parts {parts : List Json} (h : ∀ part ∈ parts, IsPart part)
    (metadata usage : Json) (configured : String) :
    (ModelReply.mk (.array parts) metadata usage).read configured =
      (ModelReply.mk (.ofMarks (joined parts)) metadata usage).read configured := by
  have hparts : messageText (.array parts) = .ok (joined parts) := joinBlocks_of_isPart h
  have htext := messageText_ofMarks (joined parts)
  unfold read tokens
  dsimp only
  rw [hparts, htext]

end ModelReply

namespace Polisher

open Text

/-- A reply of the expected kinds gives the polished review with what is left of its text,
or a failure if nothing is left, whatever else it says.  Only a whole number that the log
cannot write breaks it off.  A list of parts does the same as its texts joined. -/
theorem improve_regular {p : Polisher} (hconfigured : p.configured = true) {r : ModelReply}
    (hregular : r.IsRegular) (title content : List Mark) :
    (Reasoning.clean (ModelReply.textOf r.content) ≠ [] → r.IsLoggable →
        (p.improve (.ok r) title content).result =
          .ok (.success
            ⟨Reasoning.clean (ModelReply.textOf r.content), r.modelOr p.model, r.counts.1,
              r.counts.2⟩)) ∧
      (Reasoning.clean (ModelReply.textOf r.content) ≠ [] → ¬ r.IsLoggable →
        (p.improve (.ok r) title content).result = .error (.badValue Json.tooLong)) ∧
      (Reasoning.clean (ModelReply.textOf r.content) = [] → ∀ metadata usage,
        (p.improve (.ok ⟨r.content, metadata, usage⟩) title content).result =
          .ok (.refuse .invalidResponse ModelReply.emptyText)) ∧
      ∀ parts, r.content = .array parts →
        p.improve (.ok r) title content =
          p.improve (.ok ⟨.ofMarks (ModelReply.joined parts), r.metadata, r.usage⟩) title
            content := by
  refine ⟨?_, ?_, ?_, ?_⟩
  · intro hclean hloggable
    have hread := ModelReply.read_of_isLoggable hregular hloggable hclean p.model
    simp [improve, hconfigured, hread]
  · intro hclean hnot
    have hread := ModelReply.read_of_not_isLoggable hregular hnot hclean p.model
    simp [improve, hconfigured, hread]
  · intro hclean metadata usage
    have hread := ModelReply.read_of_no_text hregular.content hclean metadata usage p.model
    simp [improve, hconfigured, hread]
  · intro parts hparts
    rcases r with ⟨content, metadata, usage⟩
    cases hparts
    have hpart := hregular.content.isPart rfl
    have hread := ModelReply.read_of_parts hpart metadata usage p.model
    simp [improve, hconfigured, hread]

def spanning : ModelReply where
  content := .array [.string "<think>a",
    .object [("type", .string "text"), ("text", .string "b</think>Good")],
    .object [("type", .string "image"), ("text", .int 1)], .unpaired [.half 0xD83D]]
  metadata := .object [("finish_reason", .string "length"), ("model_name", .string ""),
    ("token_usage", .object [("prompt_tokens", .int 5), ("completion_tokens", .null)])]
  usage := .null

theorem isRegular_spanning : spanning.IsRegular where
  content := by
    apply ModelReply.IsContent.parts
    intro part hpart ms hms htype
    simp only [List.mem_cons, List.not_mem_nil, or_false] at hpart
    rcases hpart with rfl | rfl | rfl | rfl
    · cases hms
    · cases hms
      exact ⟨_, _, rfl, rfl⟩
    · cases hms
      simp at htype
    · cases hms
  metadata := Or.inr ⟨_, rfl⟩
  usage := Or.inl rfl
  input := by
    intro v hv
    cases hv
  output := by
    intro v hv
    cases hv
  tokenUsage := fun _ => Or.inr ⟨_, rfl⟩
  prompt := by
    intro _ v hv
    cases hv
    exact Or.inr ⟨5, rfl⟩
  completion := by
    intro _ v hv
    cases hv
    exact Or.inl rfl

theorem improve_regular_spanning :
    (improve ⟨true, "gpt-4o"⟩ (.ok spanning) [] []).result =
      .ok (.success ⟨marks "Good" ++ [.half 0xD83D], .string "gpt-4o", 5, 0⟩) := by
  have hloggable : spanning.IsLoggable :=
    { ending := Json.isWritable_string _
      named := Json.isWritable_string _
      prompt := Integer.isWritable_iff.mp (by decide)
      completion := Integer.isWritable_iff.mp (by decide) }
  have hclean : Reasoning.clean (ModelReply.textOf spanning.content) =
      marks "Good" ++ [.half 0xD83D] := by decide
  have hconfigured : (Polisher.mk true "gpt-4o").configured = true := rfl
  have hread := (improve_regular hconfigured isRegular_spanning [] []).left
    (by simp [hclean]) hloggable
  rw [hclean] at hread
  exact hread

def wordy : ModelReply where
  content := .string "a"
  metadata := .null
  usage := .object [("input_tokens", .int (tenPow 4300))]

theorem isRegular_wordy : wordy.IsRegular where
  content := ModelReply.IsContent.text [.char 'a']
  metadata := Or.inl rfl
  usage := Or.inr ⟨_, rfl⟩
  input := by
    intro v hv
    cases hv
    exact ⟨_, rfl⟩
  output := by
    intro v hv
    cases hv
  tokenUsage := by
    intro hempty
    cases hempty
  prompt := by
    intro hempty
    cases hempty
  completion := by
    intro hempty
    cases hempty

/-- The log cannot write the one reply, and the other one has a text for the record of
tokens. -/
theorem improve_breaks_off :
    (improve ⟨true, "gpt-4o"⟩ (.ok wordy) [] []).result = .error (.badValue Json.tooLong) ∧
      (improve ⟨true, "gpt-4o"⟩
          (.ok ⟨.string "a", .object [("token_usage", .string "abc")], .null⟩) [] []).result =
        .error (.noSuchAttribute "a value without members") := by
  constructor
  · have hcount : wordy.counts.1 = tenPow 4300 := rfl
    have hnot : ¬ wordy.IsLoggable := by
      intro h
      exact not_isShort_tenPow (hcount ▸ h.prompt)
    exact ModelReply.read_of_not_isLoggable isRegular_wordy hnot (by decide) "gpt-4o"
  · rfl

end Polisher
end ReviewDesk
