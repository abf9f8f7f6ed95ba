import LetArith.Proofs.Json.Reader

namespace LetArith.Json

/-- A bare word that denotes a document. -/
def WordDenotes (text : List Char) (document : Json) : Prop :=
  text ≠ [] ∧ (∀ c ∈ text, isBare c) ∧ word? text = some document

/-- A text between quotation marks, with the text that it denotes. -/
def QuoteDenotes (text : List Char) (value : String) : Prop :=
  ∃ raw, text = '"' :: raw ++ ['"'] ∧ unescape? raw = some value

/-- A text that denotes a document. -/
def Denotes : List Char → Json → Prop := Composed WordDenotes QuoteDenotes

namespace Reader

/-- The reader behind a text. -/
def run (reader : Reader) (text : List Char) : Option Reader := text.foldlM step reader

@[simp] theorem run_nil (reader : Reader) : reader.run [] = some reader := rfl

@[simp] theorem run_cons (reader : Reader) (c : Char) (text : List Char) :
    reader.run (c :: text) = (reader.step c).bind (run · text) := rfl

theorem run_append (reader : Reader) (text more : List Char) :
    reader.run (text ++ more) = (reader.run text).bind (run · more) :=
  List.foldlM_append

private theorem mode_of_settle {reader next : Reader} (hsettle : reader.settle = some next) :
    next.mode = .between := by
  obtain ⟨frames, expected, mode⟩ := reader
  cases mode with
  | between =>
    obtain rfl := Option.some.inj hsettle
    rfl
  | quoted raw escaped => cases hsettle
  | bare word =>
    obtain ⟨value, -, hvalue⟩ := Option.bind_eq_some_iff.1 hsettle
    cases expected with
    | value closable =>
      obtain rfl := Option.some.inj hvalue
      rfl
    | name fields closable => cases hvalue
    | colon fields name => cases hvalue
    | more value' => cases hvalue

/-- A character that is not one of a bare word is taken when the word before it is over. -/
theorem step_of_settle {reader next : Reader} (hsettle : reader.settle = some next) {c : Char}
    (hc : isBare c = false) : reader.step c = next.enter c := by
  obtain ⟨frames, expected, mode⟩ := reader
  cases mode with
  | between =>
    obtain rfl := Option.some.inj hsettle
    rfl
  | quoted raw escaped => cases hsettle
  | bare word => simp [step, hc, hsettle]

private theorem enter_of_isSpace (reader : Reader) {c : Char} (hc : isSpace c) :
    reader.enter c = some reader := by
  have hquote : c ≠ '"' := by
    rintro rfl
    cases hc
  rw [enter, if_neg hquote, if_pos hc]

theorem run_space {reader : Reader} (hmode : reader.mode = .between) {text : List Char}
    (hspace : Space text) : reader.run text = some reader := by
  induction text with
  | nil => rfl
  | cons c text ih =>
    obtain ⟨hc, hspace⟩ := List.forall_mem_cons.1 hspace
    have hstep : reader.step c = some reader := by
      rw [step, hmode]
      exact enter_of_isSpace reader hc
    rw [run_cons, hstep, Option.bind_some, ih hspace]

/-- Space behind a value is taken, and ends the word if the value is one. -/
theorem exists_run_space {reader next : Reader} (hsettle : reader.settle = some next)
    {text : List Char} (hspace : Space text) :
    ∃ behind, reader.run text = some behind ∧ behind.settle = some next := by
  cases text with
  | nil => exact ⟨reader, rfl, hsettle⟩
  | cons c text =>
    obtain ⟨hc, hspace⟩ := List.forall_mem_cons.1 hspace
    have hbare : isBare c = false := by simp [isBare, hc]
    have hmode := mode_of_settle hsettle
    refine ⟨next, ?_, ?_⟩
    · rw [run_cons, step_of_settle hsettle hbare, enter_of_isSpace next hc, Option.bind_some,
        run_space hmode hspace]
    · rw [settle, hmode]

theorem step_of_mark {reader next : Reader} (hsettle : reader.settle = some next) {c : Char}
    (hc : isMark c) : reader.step c = next.receiveMark c := by
  have hbare : isBare c = false := by simp [isBare, hc]
  have hquote : c ≠ '"' := by
    rintro rfl
    cases hc
  have hspace : isSpace c = false := by
    simp only [isMark, Bool.or_eq_true, decide_eq_true_eq] at hc
    rcases hc with ((((rfl | rfl) | rfl) | rfl) | rfl) | rfl <;> rfl
  rw [step_of_settle hsettle hbare, enter, if_neg hquote, hspace, if_pos hc]
  rfl

private theorem run_bare (frames : List Frame) (expected : Expected) (word : List Char)
    {text : List Char}
    (hbare : ∀ c ∈ text, isBare c) :
    run ⟨frames, expected, .bare word⟩ text = some ⟨frames, expected, .bare (word ++ text)⟩ := by
  induction text generalizing word with
  | nil => simp
  | cons c text ih =>
    obtain ⟨hc, hbare⟩ := List.forall_mem_cons.1 hbare
    have hstep : step ⟨frames, expected, .bare word⟩ c =
        some ⟨frames, expected, .bare (word ++ [c])⟩ := if_pos hc
    rw [run_cons, hstep, Option.bind_some, ih _ hbare, List.append_assoc, List.singleton_append]

private theorem ne_of_hexValue? {c : Char} {value : Nat} (hvalue : hexValue? c = some value) :
    c ≠ '"' ∧ c ≠ '\\' := by
  constructor
  · rintro rfl
    simp [hexValue?] at hvalue
  · rintro rfl
    simp [hexValue?] at hvalue

section Quoted

variable (frames : List Frame) (expected : Expected)

private theorem step_quoted (before : List Char) {c : Char} (hquote : c ≠ '"')
    (hescape : c ≠ '\\') :
    step ⟨frames, expected, .quoted before false⟩ c =
      some ⟨frames, expected, .quoted (before ++ [c]) false⟩ := by
  simp [step, hquote, hescape]

private theorem step_backslash (before : List Char) :
    step ⟨frames, expected, .quoted before false⟩ '\\' =
      some ⟨frames, expected, .quoted (before ++ ['\\']) true⟩ := rfl

private theorem step_escaped (before : List Char) (c : Char) :
    step ⟨frames, expected, .quoted before true⟩ c =
      some ⟨frames, expected, .quoted (before ++ [c]) false⟩ := rfl

/-- What stands between quotation marks does not end before the second of them. -/
theorem run_quoted (before : List Char) {raw : List Char} {codes : List Nat}
    (hcodes : codes? raw = some codes) :
    run ⟨frames, expected, .quoted before false⟩ raw =
      some ⟨frames, expected, .quoted (before ++ raw) false⟩ := by
  fun_induction codes? raw generalizing before codes with
  | case1 => simp
  | case2 a b c d raw ih =>
    simp only [Option.bind_eq_bind, Option.bind_eq_some_iff] at hcodes
    obtain ⟨_, ha, _, hb, _, hc, _, hd, others, hothers, -⟩ := hcodes
    obtain ⟨ha, ha'⟩ := ne_of_hexValue? ha
    obtain ⟨hb, hb'⟩ := ne_of_hexValue? hb
    obtain ⟨hc, hc'⟩ := ne_of_hexValue? hc
    obtain ⟨hd, hd'⟩ := ne_of_hexValue? hd
    simp only [run_cons, step_backslash, step_escaped, Option.bind_some, step_quoted, ha, ha', hb,
      hb', hc, hc', hd, hd', ne_eq, not_false_eq_true, ih _ hothers, List.append_assoc,
      List.cons_append, List.nil_append]
  | case3 letter raw hnot ih =>
    simp only [Option.bind_eq_bind, Option.bind_eq_some_iff] at hcodes
    obtain ⟨_, -, others, hothers, -⟩ := hcodes
    simp only [run_cons, step_backslash, step_escaped, Option.bind_some, ih _ hothers,
      List.append_assoc, List.cons_append, List.nil_append]
  | case4 c raw hnot hnot' hc => cases hcodes
  | case5 c raw hnot hnot' hc ih =>
    obtain ⟨others, hothers, -⟩ := Option.map_eq_some_iff.1 hcodes
    have hquote : c ≠ '"' := fun h => hc (.inl h)
    have hescape : c ≠ '\\' := fun h => hc (.inr (.inl h))
    rw [run_cons, step_quoted frames expected before hquote hescape, Option.bind_some,
      ih _ hothers, List.append_assoc, List.singleton_append]

end Quoted

/-- A reader that expects a value reads a text as the value that it denotes. -/
def Reads (text : List Char) (document : Json) : Prop :=
  ∀ frames closable, ∃ behind, run ⟨frames, .value closable, .between⟩ text = some behind ∧
    behind.settle = some ⟨frames, .more document, .between⟩

theorem reads_of_wordDenotes {text : List Char} {document : Json}
    (hword : WordDenotes text document) : Reads text document := by
  intro frames closable
  obtain ⟨hne, hbare, hvalue⟩ := hword
  obtain ⟨c, others, rfl⟩ := List.exists_cons_of_ne_nil hne
  obtain ⟨hc, hothers⟩ := List.forall_mem_cons.1 hbare
  have hstep : step ⟨frames, .value closable, .between⟩ c =
      some ⟨frames, .value closable, .bare [c]⟩ := by
    simp only [isBare, Bool.and_eq_true, Bool.not_eq_true', bne_iff_ne] at hc
    simp [step, enter, hc]
  refine ⟨⟨frames, .value closable, .bare (c :: others)⟩, ?_, ?_⟩
  · rw [run_cons, hstep, Option.bind_some, run_bare _ _ _ hothers, List.singleton_append]
  · simp [settle, hvalue, receiveValue]

private theorem run_of_quoteDenotes {text : List Char} {value : String}
    (hquote : QuoteDenotes text value)
    (frames : List Frame) (expected : Expected) :
    run ⟨frames, expected, .between⟩ text = receiveText ⟨frames, expected, .between⟩ value := by
  obtain ⟨raw, rfl, hvalue⟩ := hquote
  obtain ⟨codes, hcodes, -⟩ := Option.bind_eq_some_iff.1 hvalue
  have hopen : step ⟨frames, expected, .between⟩ '"' =
      some ⟨frames, expected, .quoted [] false⟩ := rfl
  have hclose : step ⟨frames, expected, .quoted raw false⟩ '"' =
      receiveText ⟨frames, expected, .quoted raw false⟩ value := by
    simp [step, hvalue]
  rw [List.cons_append, run_cons, hopen, Option.bind_some, run_append,
    run_quoted frames expected [] hcodes, Option.bind_some, List.nil_append, run_cons, hclose]
  cases expected <;> rfl

theorem reads_of_quoteDenotes {text : List Char} {value : String}
    (hquote : QuoteDenotes text value) : Reads text (.text value) :=
  fun frames closable => ⟨_, run_of_quoteDenotes hquote frames (.value closable), rfl⟩

theorem Reads.padded {before text behind : List Char} {document : Json} (hbefore : Space before)
    (hbehind : Space behind) (hreads : Reads text document) :
    Reads (before ++ text ++ behind) document := by
  intro frames closable
  obtain ⟨reader, hrun, hsettle⟩ := hreads frames closable
  obtain ⟨last, hlast, hsettleLast⟩ := exists_run_space hsettle hbehind
  refine ⟨last, ?_, hsettleLast⟩
  rw [run_append, run_append, run_space rfl hbefore, Option.bind_some, hrun, Option.bind_some, hlast]

/-- The items of an array are read one after another; what has been read before them comes first. -/
theorem exists_run_items {items : List (List Char × Json)}
    (hitems : ∀ item ∈ items, Reads item.1 item.2) (hne : items ≠ []) (frames : List Frame)
    (before : List Json) (closable : Bool) :
    ∃ behind front last,
      run ⟨.array before :: frames, .value closable, .between⟩
        ([','].intercalate (items.map Prod.fst)) = some behind ∧
      behind.settle = some ⟨.array front :: frames, .more last, .between⟩ ∧
      front ++ [last] = before ++ items.map Prod.snd := by
  induction items generalizing before closable with
  | nil => exact absurd rfl hne
  | cons item others ih =>
    obtain ⟨hitem, hothers⟩ := List.forall_mem_cons.1 hitems
    obtain ⟨reader, hrun, hsettle⟩ := hitem (.array before :: frames) closable
    cases others with
    | nil => exact ⟨reader, before, item.2, by simpa using hrun, hsettle, rfl⟩
    | cons next others =>
      have hcomma : reader.step ',' =
          some ⟨.array (before ++ [item.2]) :: frames, .value false, .between⟩ :=
        step_of_mark hsettle rfl
      obtain ⟨behind, front, last, hbehind, hlast, hfront⟩ :=
        ih hothers (List.cons_ne_nil next others) (before ++ [item.2]) false
      rw [List.map_cons] at hbehind
      refine ⟨behind, front, last, ?_, hlast, by rw [hfront]; simp⟩
      rw [List.map_cons, List.map_cons, List.intercalate_cons_cons, run_append, run_append, hrun,
        Option.bind_some, run_cons, hcomma]
      exact hbehind

theorem Reads.array {items : List (List Char × Json)} {last : List Char} (hlast : Space last)
    (hitems : ∀ item ∈ items, Reads item.1 item.2) :
    Reads ('[' :: [','].intercalate (items.map Prod.fst) ++ last ++ [']'])
      (.array (items.map Prod.snd)) := by
  intro frames closable
  have hopen : step ⟨frames, .value closable, .between⟩ '[' =
      some ⟨.array [] :: frames, .value true, .between⟩ := by
    rw [step_of_mark rfl rfl]
    simp [receiveMark]
  by_cases hne : items = []
  · subst hne
    have hclose : step ⟨.array [] :: frames, .value true, .between⟩ ']' =
        some ⟨frames, .more (.array []), .between⟩ := by
      rw [step_of_mark rfl rfl]
      simp [receiveMark]
    refine ⟨⟨frames, .more (.array []), .between⟩, ?_, rfl⟩
    rw [List.append_assoc, List.cons_append, run_cons, hopen, Option.bind_some]
    simp only [List.map_nil, List.intercalate_nil, List.nil_append]
    rw [run_append, run_space rfl hlast, Option.bind_some, run_cons, hclose]
    rfl
  · obtain ⟨behind, front, value, hbehind, hsettle, hfront⟩ :=
      exists_run_items hitems hne frames [] true
    obtain ⟨reader, hspace, hreader⟩ := exists_run_space hsettle hlast
    have hclose : reader.step ']' = some ⟨frames, .more (.array (front ++ [value])), .between⟩ :=
      step_of_mark hreader rfl
    refine ⟨⟨frames, .more (.array (items.map Prod.snd)), .between⟩, ?_, rfl⟩
    rw [List.append_assoc, List.cons_append, run_cons, hopen, Option.bind_some, run_append, hbehind,
      Option.bind_some, run_append, hspace, Option.bind_some, run_cons, hclose, hfront]
    rfl

private theorem exists_run_member {member : Member} (hbefore : Space member.before)
    (hname : QuoteDenotes member.nameText member.name) (hbehind : Space member.behind)
    (hvalue : Reads member.valueText member.value) (frames : List Frame)
    (fields : List (String × Json)) (closable : Bool) :
    ∃ behind, run ⟨frames, .name fields closable, .between⟩ member.text = some behind ∧
      behind.settle =
        some ⟨.object fields member.name :: frames, .more member.value, .between⟩ := by
  obtain ⟨behind, hrun, hsettle⟩ := hvalue (.object fields member.name :: frames) false
  have hcolon : step ⟨frames, .colon fields member.name, .between⟩ ':' =
      some ⟨.object fields member.name :: frames, .value false, .between⟩ := by
    rw [step_of_mark rfl rfl]
    simp [receiveMark]
  have hquoted : run ⟨frames, .name fields closable, .between⟩ member.nameText =
      some ⟨frames, .colon fields member.name, .between⟩ := run_of_quoteDenotes hname frames _
  refine ⟨behind, ?_, hsettle⟩
  rw [Member.text, run_append, run_append, run_append, run_space rfl hbefore, Option.bind_some,
    hquoted, Option.bind_some, run_space rfl hbehind, Option.bind_some, run_cons, hcolon,
    Option.bind_some, hrun]

/-- The fields of an object are read one after another; what has been read before them comes first. -/
theorem exists_run_members {members : List Member}
    (hnames : ∀ member ∈ members, Space member.before ∧
      QuoteDenotes member.nameText member.name ∧ Space member.behind)
    (hvalues : ∀ member ∈ members, Reads member.valueText member.value) (hne : members ≠ [])
    (frames : List Frame) (before : List (String × Json)) (closable : Bool) :
    ∃ behind front name value,
      run ⟨frames, .name before closable, .between⟩
        ([','].intercalate (members.map Member.text)) = some behind ∧
      behind.settle = some ⟨.object front name :: frames, .more value, .between⟩ ∧
      front ++ [(name, value)] = before ++ members.map Member.field := by
  induction members generalizing before closable with
  | nil => exact absurd rfl hne
  | cons member others ih =>
    obtain ⟨⟨hbefore, hname, hbehind⟩, hnames⟩ := List.forall_mem_cons.1 hnames
    obtain ⟨hvalue, hvalues⟩ := List.forall_mem_cons.1 hvalues
    obtain ⟨reader, hrun, hsettle⟩ :=
      exists_run_member hbefore hname hbehind hvalue frames before closable
    cases others with
    | nil => exact ⟨reader, before, member.name, member.value, by simpa using hrun, hsettle, rfl⟩
    | cons next others =>
      have hcomma : reader.step ',' =
          some ⟨frames, .name (before ++ [member.field]) false, .between⟩ :=
        step_of_mark hsettle rfl
      obtain ⟨behind, front, name, value, hbehind, hlast, hfront⟩ :=
        ih hnames hvalues (List.cons_ne_nil next others) (before ++ [member.field]) false
      rw [List.map_cons] at hbehind
      refine ⟨behind, front, name, value, ?_, hlast, by rw [hfront]; simp⟩
      rw [List.map_cons, List.map_cons, List.intercalate_cons_cons, run_append, run_append, hrun,
        Option.bind_some, run_cons, hcomma]
      exact hbehind

theorem Reads.object {members : List Member} {last : List Char} (hlast : Space last)
    (hnames : ∀ member ∈ members, Space member.before ∧
      QuoteDenotes member.nameText member.name ∧ Space member.behind)
    (hvalues : ∀ member ∈ members, Reads member.valueText member.value) :
    Reads ('\x7b' :: [','].intercalate (members.map Member.text) ++ last ++ ['\x7d'])
      (.object (members.map Member.field)) := by
  intro frames closable
  have hopen : step ⟨frames, .value closable, .between⟩ '\x7b' =
      some ⟨frames, .name [] true, .between⟩ := by
    rw [step_of_mark rfl rfl]
    simp [receiveMark]
  by_cases hne : members = []
  · subst hne
    have hclose : step ⟨frames, .name [] true, .between⟩ '\x7d' =
        some ⟨frames, .more (.object []), .between⟩ := by
      rw [step_of_mark rfl rfl]
      simp [receiveMark]
    refine ⟨⟨frames, .more (.object []), .between⟩, ?_, rfl⟩
    rw [List.append_assoc, List.cons_append, run_cons, hopen, Option.bind_some]
    simp only [List.map_nil, List.intercalate_nil, List.nil_append]
    rw [run_append, run_space rfl hlast, Option.bind_some, run_cons, hclose]
    rfl
  · obtain ⟨behind, front, name, value, hbehind, hsettle, hfront⟩ :=
      exists_run_members hnames hvalues hne frames [] true
    obtain ⟨reader, hspace, hreader⟩ := exists_run_space hsettle hlast
    have hclose : reader.step '\x7d' =
        some ⟨frames, .more (.object (front ++ [(name, value)])), .between⟩ :=
      step_of_mark hreader rfl
    refine ⟨⟨frames, .more (.object (members.map Member.field)), .between⟩, ?_, rfl⟩
    rw [List.append_assoc, List.cons_append, run_cons, hopen, Option.bind_some, run_append, hbehind,
      Option.bind_some, run_append, hspace, Option.bind_some, run_cons, hclose, hfront]
    rfl

theorem reads_of_denotes {text : List Char} {document : Json} (hdenotes : Denotes text document) :
    Reads text document := by
  induction hdenotes with
  | word hword => exact reads_of_wordDenotes hword
  | text hquote => exact reads_of_quoteDenotes hquote
  | padded hbefore hbehind _ ih => exact ih.padded hbefore hbehind
  | array hlast _ ih => exact Reads.array hlast ih
  | object hlast hnames _ ih => exact Reads.object hlast hnames ih

end Reader

/-- A text that denotes a document is read as that document. -/
theorem read?_of_denotes {text : List Char} {document : Json} (hdenotes : Denotes text document) :
    read? text = some document := by
  obtain ⟨behind, hrun, hsettle⟩ := Reader.reads_of_denotes hdenotes [] false
  change (Reader.beginning.run text).bind (fun reader => reader.settle.bind Reader.document?) = _
  rw [Reader.beginning, hrun, Option.bind_some, hsettle]
  rfl

end LetArith.Json
