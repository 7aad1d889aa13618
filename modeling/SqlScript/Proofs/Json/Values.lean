import SqlScript.Proofs.Json.Tokens
import SqlScript.Proofs.Text.Trimming

/-!
Values read from JSON. A text is read token by token, with the arrays and objects that are still
open on a stack. A value that has been written over several lines is read as itself, whatever stands
behind it.
-/

namespace SqlScript.Json

open Text

inductive Value where
  | null
  | boolean (value : Bool)
  | number (value : Number)
  | string (text : Text)
  | array (items : List Value)
  | object (fields : List (Text × Value))

/-- An array or object whose next value is being read: what it holds so far, the last of it first,
and the key of that value. -/
inductive Frame where
  | array (items : List Value)
  | object (fields : List (Text × Value)) (key : Text)

inductive Stage where
  /-- A value, or the end of an array that has just been opened. -/
  | value (mayClose : Bool)
  /-- A key of an object with the fields, or its end if it has just been opened. -/
  | key (fields : List (Text × Value)) (mayClose : Bool)
  /-- The colon behind a key of an object with the fields. -/
  | colon (fields : List (Text × Value)) (key : Text)
  /-- What follows a value. -/
  | done (value : Value)

/-- How far a text has been read. -/
structure State where
  /-- The arrays and objects that are open, the innermost first. -/
  frames : List Frame
  stage : Stage

namespace State

def step : State → Token → Option State
  | ⟨frames, .value _⟩, .null => some ⟨frames, .done .null⟩
  | ⟨frames, .value _⟩, .boolean value => some ⟨frames, .done (.boolean value)⟩
  | ⟨frames, .value _⟩, .number value => some ⟨frames, .done (.number value)⟩
  | ⟨frames, .value _⟩, .string text => some ⟨frames, .done (.string text)⟩
  | ⟨frames, .value _⟩, .openBracket => some ⟨.array [] :: frames, .value true⟩
  | ⟨frames, .value _⟩, .openBrace => some ⟨frames, .key [] true⟩
  | ⟨.array items :: frames, .value true⟩, .closeBracket =>
    some ⟨frames, .done (.array items.reverse)⟩
  | ⟨.array items :: frames, .done value⟩, .comma =>
    some ⟨.array (value :: items) :: frames, .value false⟩
  | ⟨.array items :: frames, .done value⟩, .closeBracket =>
    some ⟨frames, .done (.array (value :: items).reverse)⟩
  | ⟨frames, .key fields _⟩, .string key => some ⟨frames, .colon fields key⟩
  | ⟨frames, .key fields true⟩, .closeBrace => some ⟨frames, .done (.object fields.reverse)⟩
  | ⟨frames, .colon fields key⟩, .colon => some ⟨.object fields key :: frames, .value false⟩
  | ⟨.object fields key :: frames, .done value⟩, .comma =>
    some ⟨frames, .key ((key, value) :: fields) false⟩
  | ⟨.object fields key :: frames, .done value⟩, .closeBrace =>
    some ⟨frames, .done (.object ((key, value) :: fields).reverse)⟩
  | _, _ => none

def result? : State → Option Value
  | ⟨[], .done value⟩ => some value
  | _ => none

def read? (state : State) (text : Text) : Option Value :=
  (Token.ofText? text).bind fun tokens => (tokens.foldlM step state).bind result?

end State

def Value.read? (text : Text) : Option Value := State.read? ⟨[], .value false⟩ text

mutual

/-- A value that is written in a listing, as a value of a text. -/
def value : Json → Value
  | .string s => .string s
  | .number n => .number (.ofNat n)
  | .array items => .array (values items)
  | .object fields => .object (fieldValues fields)

def values : List Json → List Value
  | [] => []
  | item :: items => item.value :: values items

def fieldValues : List (Text × Json) → List (Text × Value)
  | [] => []
  | (key, item) :: fields => (key, item.value) :: fieldValues fields

end

theorem values_eq_map (items : List Json) : values items = items.map value := by
  induction items with
  | nil => rfl
  | cons item items ih => rw [values, ih, List.map_cons]

namespace State

variable {state next : State} {token : Token} {rest : Text}

/-! ### One token -/

theorem read?_of_token {s : Text} (htoken : Token.ofText? s = (Token.ofText? rest).map (token :: ·))
    (hstep : state.step token = some next) : state.read? s = next.read? rest := by
  rw [read?, htoken, read?]
  cases Token.ofText? rest with
  | none => rfl
  | some tokens => simp [List.foldlM_cons, hstep]

theorem read?_mark {c : Char} (h : Token.ofMark? c = some token)
    (hstep : state.step token = some next) (rest : Text) :
    state.read? (c :: rest) = next.read? rest :=
  read?_of_token (Token.ofText?_mark h rest) hstep

theorem read?_quote {s : Text} (hstep : state.step (.string s) = some next) (rest : Text) :
    state.read? (quote s ++ rest) = next.read? rest :=
  read?_of_token (Token.ofText?_quote s rest) hstep

theorem read?_ofNat {n : Nat} (hrest : rest.head?.all (!Token.isBare ·))
    (hstep : state.step (.number (.ofNat n)) = some next) :
    state.read? (ofNat n ++ rest) = next.read? rest :=
  read?_of_token (Token.ofText?_ofNat n hrest) hstep

theorem read?_margin {margin : Text} (h : ∀ c ∈ margin, Token.isSpace c) (state : State)
    (rest : Text) : state.read? (margin ++ rest) = state.read? rest := by
  rw [read?, Token.ofText?_append_of_isSpace h, read?]

/-- A line break and the margin of the next line. -/
theorem read?_lineBreak {margin : Text} (h : ∀ c ∈ margin, Token.isSpace c) (state : State)
    (rest : Text) : state.read? ('\n' :: (margin ++ rest)) = state.read? rest := by
  have hline : ∀ c ∈ '\n' :: margin, Token.isSpace c := List.forall_mem_cons.mpr ⟨by decide, h⟩
  rw [← List.cons_append, read?_margin hline]

end State

/-! ### Lines between brackets -/

/-- The margin of the lines between two brackets. -/
def inner (margin : Text) : Text := margin ++ [' ', ' ']

theorem isSpace_of_mem_inner {margin : Text} (h : ∀ c ∈ margin, Token.isSpace c) :
    ∀ c ∈ inner margin, Token.isSpace c := by
  intro c hc
  rw [inner, List.mem_append] at hc
  rcases hc with hc | hc
  · exact h c hc
  · obtain rfl : c = ' ' := by simpa using hc
    rfl

/-- What stands behind an item: the other items, each behind a comma and on a line of its own, and
the closing bracket. -/
def following (closing : Char) (margin : Text) (texts : List Text) (rest : Text) : Text :=
  texts.flatMap (fun text => ',' :: '\n' :: (inner margin ++ text)) ++
    '\n' :: (margin ++ closing :: rest)

theorem enclose_cons_append (opening closing : Char) (margin text : Text) (texts : List Text)
    (rest : Text) :
    enclose opening closing margin (text :: texts) ++ rest =
      opening :: '\n' :: (inner margin ++ (text ++ following closing margin texts rest)) := by
  simp [enclose, following, inner, join_cons_eq_flatMap, List.flatMap_map]

theorem following_nil (closing : Char) (margin rest : Text) :
    following closing margin [] rest = '\n' :: (margin ++ closing :: rest) := rfl

theorem following_cons (closing : Char) (margin text : Text) (texts : List Text) (rest : Text) :
    following closing margin (text :: texts) rest =
      ',' :: '\n' :: (inner margin ++ (text ++ following closing margin texts rest)) := by
  simp [following]

theorem endsBare_following (closing : Char) (margin : Text) (texts : List Text) (rest : Text) :
    (following closing margin texts rest).head?.all (!Token.isBare ·) := by
  cases texts with
  | nil => rfl
  | cons text texts => rw [following_cons]; rfl

/-! ### Written values -/

/-- Whether a value that has been written at any margin is read as itself. -/
def ReadsBack (json : Json) : Prop :=
  ∀ (margin : Text), (∀ c ∈ margin, Token.isSpace c) → ∀ (frames : List Frame) (mayClose : Bool)
    (rest : Text), rest.head?.all (!Token.isBare ·) →
    State.read? ⟨frames, .value mayClose⟩ (json.pretty margin ++ rest) =
      State.read? ⟨frames, .done json.value⟩ rest

theorem readsBack_string (s : Text) : ReadsBack (.string s) := by
  intro margin _ frames mayClose rest _
  exact State.read?_quote rfl rest

theorem readsBack_number (n : Nat) : ReadsBack (.number n) := by
  intro margin _ frames mayClose rest hrest
  exact State.read?_ofNat hrest rfl

/-- The items behind the first ones of an array. -/
theorem read?_items {items : List Json} (h : ∀ item ∈ items, ReadsBack item) {margin : Text}
    (hmargin : ∀ c ∈ margin, Token.isSpace c) (frames : List Frame) (previous : List Value)
    (last : Value) (rest : Text) :
    State.read? ⟨.array previous :: frames, .done last⟩
        (following ']' margin (prettyItems (inner margin) items) rest) =
      State.read? ⟨frames, .done (.array ((last :: previous).reverse ++ values items))⟩ rest := by
  induction items generalizing previous last with
  | nil =>
      have hclose : State.read? ⟨.array previous :: frames, .done last⟩ (']' :: rest) =
          State.read? ⟨frames, .done (.array (last :: previous).reverse)⟩ rest :=
        State.read?_mark rfl rfl rest
      rw [prettyItems, following_nil, State.read?_lineBreak hmargin, hclose, values,
        List.append_nil]
  | cons item items ih =>
      obtain ⟨hitem, hitems⟩ := List.forall_mem_cons.mp h
      have hinner := isSpace_of_mem_inner hmargin
      rw [prettyItems, following_cons, State.read?_mark (c := ',') rfl rfl,
        State.read?_lineBreak hinner, hitem _ hinner _ _ _ (endsBare_following ..), ih hitems]
      simp [values]

theorem readsBack_array {items : List Json} (h : ∀ item ∈ items, ReadsBack item) :
    ReadsBack (.array items) := by
  intro margin hmargin frames mayClose rest _
  rw [pretty]
  cases items with
  | nil =>
      change State.read? _ ('[' :: ']' :: rest) = _
      rw [State.read?_mark (c := '[') rfl rfl, State.read?_mark (c := ']') rfl rfl]
      rfl
  | cons item items =>
      obtain ⟨hitem, hitems⟩ := List.forall_mem_cons.mp h
      have hinner := isSpace_of_mem_inner hmargin
      rw [← inner, prettyItems, enclose_cons_append, State.read?_mark (c := '[') rfl rfl,
        State.read?_lineBreak hinner, hitem _ hinner _ _ _ (endsBare_following ..),
        read?_items hitems hmargin]
      rfl

/-- The text of a field: its key, a colon and its value. -/
theorem read?_field {key : Text} {item : Json} (h : ReadsBack item) {margin : Text}
    (hmargin : ∀ c ∈ margin, Token.isSpace c) (frames : List Frame)
    (fields : List (Text × Value)) (mayClose : Bool) {rest : Text}
    (hrest : rest.head?.all (!Token.isBare ·)) :
    State.read? ⟨frames, .key fields mayClose⟩
        (quote key ++ [':', ' '] ++ item.pretty margin ++ rest) =
      State.read? ⟨.object fields key :: frames, .done item.value⟩ rest := by
  have hspace : ∀ c ∈ [' '], Token.isSpace c := List.forall_mem_singleton.mpr rfl
  have htext : quote key ++ [':', ' '] ++ item.pretty margin ++ rest =
      quote key ++ ':' :: ([' '] ++ (item.pretty margin ++ rest)) := by
    simp
  have hkey : ∀ s, State.read? ⟨frames, .key fields mayClose⟩ (quote key ++ s) =
      State.read? ⟨frames, .colon fields key⟩ s := State.read?_quote rfl
  rw [htext, hkey, State.read?_mark (c := ':') rfl rfl, State.read?_margin hspace,
    h _ hmargin _ _ _ hrest]

/-- The fields behind the first ones of an object. -/
theorem read?_fields {fields : List (Text × Json)} (h : ∀ field ∈ fields, ReadsBack field.2)
    {margin : Text} (hmargin : ∀ c ∈ margin, Token.isSpace c) (frames : List Frame)
    (previous : List (Text × Value)) (key : Text) (last : Value) (rest : Text) :
    State.read? ⟨.object previous key :: frames, .done last⟩
        (following '\x7d' margin (prettyFields (inner margin) fields) rest) =
      State.read?
        ⟨frames, .done (.object (((key, last) :: previous).reverse ++ fieldValues fields))⟩
        rest := by
  induction fields generalizing previous key last with
  | nil =>
      have hclose : State.read? ⟨.object previous key :: frames, .done last⟩ ('\x7d' :: rest) =
          State.read? ⟨frames, .done (.object ((key, last) :: previous).reverse)⟩ rest :=
        State.read?_mark rfl rfl rest
      rw [prettyFields, following_nil, State.read?_lineBreak hmargin, hclose, fieldValues,
        List.append_nil]
  | cons field fields ih =>
      obtain ⟨hfield, hfields⟩ := List.forall_mem_cons.mp h
      have hinner := isSpace_of_mem_inner hmargin
      rw [prettyFields, following_cons, State.read?_mark (c := ',') rfl rfl,
        State.read?_lineBreak hinner, read?_field hfield hinner _ _ _ (endsBare_following ..),
        ih hfields]
      simp [fieldValues]

theorem readsBack_object {fields : List (Text × Json)} (h : ∀ field ∈ fields, ReadsBack field.2) :
    ReadsBack (.object fields) := by
  intro margin hmargin frames mayClose rest _
  rw [pretty]
  cases fields with
  | nil =>
      change State.read? _ ('\x7b' :: '\x7d' :: rest) = _
      rw [State.read?_mark (c := '\x7b') rfl rfl, State.read?_mark (c := '\x7d') rfl rfl]
      rfl
  | cons field fields =>
      obtain ⟨hfield, hfields⟩ := List.forall_mem_cons.mp h
      have hinner := isSpace_of_mem_inner hmargin
      rw [← inner, prettyFields, enclose_cons_append, State.read?_mark (c := '\x7b') rfl rfl,
        State.read?_lineBreak hinner, read?_field hfield hinner _ _ _ (endsBare_following ..),
        read?_fields hfields hmargin]
      rfl

theorem readsBack (json : Json) : ReadsBack json := by
  match json with
  | .string s => exact readsBack_string s
  | .number n => exact readsBack_number n
  | .array items => exact readsBack_array fun item hitem => readsBack item
  | .object fields => exact readsBack_object fun field hfield => readsBack field.2
termination_by sizeOf json
decreasing_by
  · have := List.sizeOf_lt_of_mem hitem
    simp only [Json.array.sizeOf_spec]
    omega
  · have := List.sizeOf_lt_of_mem hfield
    have : sizeOf field.2 < sizeOf field := by
      rw [Prod.mk.sizeOf_spec field.1 field.2]
      omega
    simp only [Json.object.sizeOf_spec]
    omega

/-- A value that has been written is read as itself. -/
theorem read?_render (json : Json) : Value.read? json.render = some json.value := by
  have h := readsBack json [] (List.forall_mem_nil _) [] false [] rfl
  rw [List.append_nil] at h
  rw [Value.read?, render, h, State.read?, Token.ofText?]
  rfl

/-- Another comma is refused in front of a bracket, and so is anything behind a value. -/
example : (Value.read? "[1,]".toList).isNone ∧ (Value.read? "[1] 2".toList).isNone ∧
    (Value.read? "\x7b\"a\" 1\x7d".toList).isNone := by
  decide +kernel

end SqlScript.Json
