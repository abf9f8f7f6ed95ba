import LetArith.Json.Basic

namespace LetArith.Json

/-- The characters that may stand between the lexemes of a document. -/
def isSpace (c : Char) : Bool := c = ' ' || c = '\t' || c = '\n' || c = '\r'

/-- A row of such characters. -/
def Space (text : List Char) : Prop := ∀ c ∈ text, isSpace c

/-- The characters that are lexemes of their own. -/
def isMark (c : Char) : Bool :=
  c = '[' || c = ']' || c = '\x7b' || c = '\x7d' || c = ',' || c = ':'

/-- A field of an object as it is written. -/
structure Member where
  /-- The space before the name. -/
  before : List Char
  nameText : List Char
  name : String
  /-- The space behind the name. -/
  behind : List Char
  valueText : List Char
  value : Json

/-- The text of a field. -/
def Member.text (member : Member) : List Char :=
  member.before ++ member.nameText ++ member.behind ++ ':' :: member.valueText

/-- The field that is written. -/
def Member.field (member : Member) : String × Json := (member.name, member.value)

/-- Texts that are composed of bare words and quoted texts, and the documents that they denote, where
    words denote documents and quoted texts denote texts. -/
inductive Composed (word : List Char → Json → Prop) (quote : List Char → String → Prop) :
    List Char → Json → Prop
  | word {text : List Char} {document : Json} (hword : word text document) :
    Composed word quote text document
  | text {text : List Char} {value : String} (hquote : quote text value) :
    Composed word quote text (.text value)
  | padded {before text behind : List Char} {document : Json} (hbefore : Space before)
    (hbehind : Space behind) (hcomposed : Composed word quote text document) :
    Composed word quote (before ++ text ++ behind) document
  | array {items : List (List Char × Json)} {last : List Char} (hlast : Space last)
    (hitems : ∀ item ∈ items, Composed word quote item.1 item.2) :
    Composed word quote ('[' :: [','].intercalate (items.map Prod.fst) ++ last ++ [']'])
      (.array (items.map Prod.snd))
  | object {members : List Member} {last : List Char} (hlast : Space last)
    (hnames : ∀ member ∈ members,
      Space member.before ∧ quote member.nameText member.name ∧ Space member.behind)
    (hvalues : ∀ member ∈ members, Composed word quote member.valueText member.value) :
    Composed word quote ('\x7b' :: [','].intercalate (members.map Member.text) ++ last ++ ['\x7d'])
      (.object (members.map Member.field))

/-- A property that integers, reals and texts have, and arrays and objects if all their items and
    values do, is one of every document. -/
@[induction_eliminator]
theorem induction {motive : Json → Prop} (integer : ∀ value, motive (.integer value))
    (real : ∀ value, motive (.real value)) (text : ∀ value, motive (.text value))
    (array : ∀ items, (∀ item ∈ items, motive item) → motive (.array items))
    (object : ∀ fields, (∀ field ∈ fields, motive field.2) → motive (.object fields))
    (document : Json) : motive document := by
  refine @Json.rec motive (fun items => ∀ item ∈ items, motive item)
    (fun fields => ∀ field ∈ fields, motive field.2) (fun field => motive field.2)
    integer real text array object ?noItems ?items ?noFields ?fields (fun _ _ h => h) document
  case noItems => exact List.forall_mem_nil _
  case noFields => exact List.forall_mem_nil _
  case items => exact fun _ _ hitem hitems => List.forall_mem_cons.2 ⟨hitem, hitems⟩
  case fields => exact fun _ _ hfield hfields => List.forall_mem_cons.2 ⟨hfield, hfields⟩

mutual

/-- The reals of a document in their order. -/
def reals : Json → List Binary64
  | .integer _ | .text _ => []
  | .real value => [value]
  | .array items => realsOfItems items
  | .object fields => realsOfFields fields

/-- The reals of the items of an array. -/
def realsOfItems : List Json → List Binary64
  | [] => []
  | item :: items => item.reals ++ realsOfItems items

/-- The reals of the fields of an object. -/
def realsOfFields : List (String × Json) → List Binary64
  | [] => []
  | (_, value) :: fields => value.reals ++ realsOfFields fields

end

@[simp] theorem realsOfItems_eq (items : List Json) : realsOfItems items = items.flatMap reals := by
  induction items with
  | nil => rfl
  | cons item items ih => rw [realsOfItems, ih, List.flatMap_cons]

@[simp] theorem realsOfFields_eq (fields : List (String × Json)) :
    realsOfFields fields = fields.flatMap fun field => field.2.reals := by
  induction fields with
  | nil => rfl
  | cons field fields ih => rw [realsOfFields, ih, List.flatMap_cons]

private theorem renderItems_eq (level : Nat) (items : List Json) :
    renderItems level items = items.map (renderAt level) := by
  induction items with
  | nil => rfl
  | cons item items ih => rw [renderItems, ih, List.map_cons]

private theorem renderFields_eq (level : Nat) (fields : List (String × Json)) :
    renderFields level fields =
      fields.map fun field => quoted field.1 ++ ": " ++ renderAt level field.2 := by
  induction fields with
  | nil => rfl
  | cons field fields ih => rw [renderFields, ih, List.map_cons]

/-- The beginning of a line, as characters. -/
def lineBeginning (level : Nat) : List Char := '\n' :: List.replicate (2 * level) ' '

theorem space_lineBeginning (level : Nat) : Space (lineBeginning level) := by
  refine List.forall_mem_cons.2 ⟨rfl, fun c hc => ?_⟩
  rw [List.eq_of_mem_replicate hc]
  rfl

private theorem toList_newLine (level : Nat) : (newLine level).toList = lineBeginning level := by
  simp [newLine, lineBeginning]

/-- Commas and what stands behind each of them are commas alone with that before every entry. -/
theorem append_intercalate_comma (indent : List Char) {entries : List (List Char)}
    (hentries : entries ≠ []) :
    indent ++ (',' :: indent).intercalate entries = [','].intercalate (entries.map (indent ++ ·)) := by
  induction entries with
  | nil => exact absurd rfl hentries
  | cons entry others ih =>
    cases others with
    | nil => simp
    | cons next others =>
      have hothers := ih (List.cons_ne_nil next others)
      rw [List.map_cons] at hothers
      rw [List.intercalate_cons_cons, List.map_cons, List.map_cons, List.intercalate_cons_cons,
        ← hothers]
      simp

/-- Entries between brackets are separated by commas alone, with the indentation before every one of
    them and the beginning of the last line before the closing bracket. -/
theorem exists_toList_enclosed (opening closing : Char) (level : Nat) (entries : List String) :
    ∃ last, Space last ∧
      (enclosed (String.singleton opening) (String.singleton closing) level entries).toList =
        opening :: [','].intercalate
          (entries.map fun entry => lineBeginning (level + 1) ++ entry.toList) ++ last ++
          [closing] := by
  cases entries with
  | nil => exact ⟨[], List.forall_mem_nil _, by simp [enclosed]⟩
  | cons entry others =>
    refine ⟨lineBeginning level, space_lineBeginning level, ?_⟩
    have hentries : (entry :: others).map String.toList ≠ [] := List.cons_ne_nil _ _
    have hcommas := append_intercalate_comma (lineBeginning (level + 1)) hentries
    rw [List.map_map] at hcommas
    change _ = opening :: [','].intercalate
      ((entry :: others).map ((lineBeginning (level + 1) ++ ·) ∘ String.toList)) ++ _ ++ _
    rw [← hcommas]
    simp [enclosed, String.toList_intercalate, toList_newLine]

/-- A field as it is rendered on a line of its own. -/
def memberAt (level : Nat) (field : String × Json) : Member :=
  { before := lineBeginning level
    nameText := (quoted field.1).toList
    name := field.1
    behind := []
    valueText := ' ' :: (renderAt level field.2).toList
    value := field.2 }

private theorem text_memberAt (level : Nat) (field : String × Json) :
    (memberAt level field).text =
      lineBeginning level ++ (quoted field.1 ++ ": " ++ renderAt level field.2).toList := by
  simp [memberAt, Member.text]

section Render

variable {word : List Char → Json → Prop} {quote : List Char → String → Prop}

private theorem composed_array (level : Nat) {items : List Json}
    (hitems : ∀ item ∈ items, Composed word quote (renderAt (level + 1) item).toList item) :
    Composed word quote (renderAt level (.array items)).toList (.array items) := by
  obtain ⟨last, hlast, htext⟩ := exists_toList_enclosed '[' ']' level (renderItems (level + 1) items)
  let parts := items.map fun item =>
    (lineBeginning (level + 1) ++ (renderAt (level + 1) item).toList, item)
  have hparts : ∀ part ∈ parts, Composed word quote part.1 part.2 := by
    refine List.forall_mem_map.2 fun item hmem => ?_
    have hpadded := Composed.padded (space_lineBeginning (level + 1)) (List.forall_mem_nil _)
      (hitems item hmem)
    rwa [List.append_nil] at hpadded
  have htexts : parts.map Prod.fst =
      (renderItems (level + 1) items).map (lineBeginning (level + 1) ++ ·.toList) := by
    simp [parts, renderItems_eq]
  have hdenoted : parts.map Prod.snd = items := by
    rw [List.map_map]
    exact List.map_id items
  have harray := Composed.array hlast hparts
  rwa [htexts, hdenoted, ← htext] at harray

private theorem composed_object (hquote : ∀ value, quote (quoted value).toList value) (level : Nat)
    {fields : List (String × Json)}
    (hfields : ∀ field ∈ fields,
      Composed word quote (renderAt (level + 1) field.2).toList field.2) :
    Composed word quote (renderAt level (.object fields)).toList (.object fields) := by
  obtain ⟨last, hlast, htext⟩ :=
    exists_toList_enclosed '\x7b' '\x7d' level (renderFields (level + 1) fields)
  let members := fields.map (memberAt (level + 1))
  have hnames : ∀ member ∈ members,
      Space member.before ∧ quote member.nameText member.name ∧ Space member.behind := by
    refine List.forall_mem_map.2 fun field _ => ⟨?_, ?_, List.forall_mem_nil _⟩
    · exact space_lineBeginning (level + 1)
    · simpa only [memberAt] using hquote field.1
  have hvalues : ∀ member ∈ members, Composed word quote member.valueText member.value := by
    refine List.forall_mem_map.2 fun field hmem => ?_
    have hspace : Space [' '] := List.forall_mem_singleton.2 rfl
    have hpadded := Composed.padded hspace (List.forall_mem_nil _) (hfields field hmem)
    rwa [List.append_nil] at hpadded
  have htexts : members.map Member.text =
      (renderFields (level + 1) fields).map (lineBeginning (level + 1) ++ ·.toList) := by
    rw [renderFields_eq, List.map_map, List.map_map]
    exact List.map_congr_left fun field _ => text_memberAt (level + 1) field
  have hdenoted : members.map Member.field = fields := by
    rw [List.map_map]
    exact List.map_id fields
  have hobject := Composed.object hlast hnames hvalues
  rwa [htexts, hdenoted, ← htext] at hobject

end Render

/-- A rendered document is composed of the texts of its integers, reals and texts. -/
theorem composed_renderAt (word : List Char → Json → Prop) (quote : List Char → String → Prop)
    (hinteger : ∀ n : Int, word (toString n).toList (.integer n))
    (hquote : ∀ value, quote (quoted value).toList value) (document : Json)
    (hreal : ∀ x ∈ document.reals, word (x.text Binary64.documentFormat).toList (.real x))
    (level : Nat) : Composed word quote (renderAt level document).toList document := by
  induction document generalizing level with
  | integer value => exact .word (hinteger value)
  | real value => exact .word (hreal value (List.mem_singleton_self value))
  | text value => exact .text (hquote value)
  | array items ih =>
    rw [reals, realsOfItems_eq] at hreal
    exact composed_array level fun item hitem =>
      ih item hitem (fun x hx => hreal x (List.mem_flatMap_of_mem hitem hx)) _
  | object fields ih =>
    rw [reals, realsOfFields_eq] at hreal
    exact composed_object hquote level fun field hfield =>
      ih field hfield (fun x hx => hreal x (List.mem_flatMap_of_mem hfield hx)) _

end LetArith.Json
