import LetArith.Proofs.Json.Grammar

namespace LetArith.Json

open scoped Computability
open Words

/-- Where a character of a text stands: outside quotation marks, between them, or there behind a
    backslash. -/
inductive Side where
  | outside
  | quoted
  | escaped

/-- The characters outside quotation marks of a text that begins at a side. -/
def unquotedFrom : Side → List Char → List Char
  | _, [] => []
  | .outside, c :: behind =>
    if c = '"' then unquotedFrom .quoted behind else c :: unquotedFrom .outside behind
  | .quoted, c :: behind =>
    if c = '"' then unquotedFrom .outside behind
    else if c = '\\' then unquotedFrom .escaped behind
    else unquotedFrom .quoted behind
  | .escaped, _ :: behind => unquotedFrom .quoted behind

/-- The characters of a text outside quotation marks. -/
def unquoted (text : List Char) : List Char := unquotedFrom .outside text

/-- Behind a text no quotation mark is open. -/
def Settled (text : List Char) : Prop :=
  ∀ rest, unquoted (text ++ rest) = unquoted text ++ unquoted rest

theorem Settled.append {text more : List Char} (htext : Settled text) (hmore : Settled more) :
    Settled (text ++ more) := by
  intro rest
  rw [List.append_assoc, htext, hmore, htext more, List.append_assoc]

theorem settled_of_forall_ne {text : List Char} (htext : ∀ c ∈ text, c ≠ '"') :
    unquoted text = text ∧ Settled text := by
  have happend (rest : List Char) : unquoted (text ++ rest) = text ++ unquoted rest := by
    induction text with
    | nil => rfl
    | cons c text ih =>
      obtain ⟨hc, htext⟩ := List.forall_mem_cons.1 htext
      have hrest := ih htext
      rw [unquoted] at hrest
      rw [List.cons_append, unquoted, unquotedFrom, if_neg hc, hrest]
      rfl
  have hself : unquoted text = text := by
    have hnil := happend []
    rwa [List.append_nil, unquoted.eq_def [], unquotedFrom, List.append_nil] at hnil
  exact ⟨hself, fun rest => by rw [happend, hself]⟩

theorem unquotedFrom_quoted_cons {c : Char} (hquote : c ≠ '"') (hescape : c ≠ '\\')
    (behind : List Char) :
    unquotedFrom .quoted (c :: behind) = unquotedFrom .quoted behind := by
  rw [unquotedFrom, if_neg hquote, if_neg hescape]

theorem unquotedFrom_quoted_escape (c : Char) (behind : List Char) :
    unquotedFrom .quoted ('\\' :: c :: behind) = unquotedFrom .quoted behind := by
  rw [unquotedFrom, if_neg (by decide), if_pos rfl, unquotedFrom]

theorem unquotedFrom_quoted_hexDigit {digit : List Char} (hdigit : digit ∈ Grammar.hexDigit)
    (behind : List Char) :
    unquotedFrom .quoted (digit ++ behind) = unquotedFrom .quoted behind := by
  obtain ⟨c, hc, rfl⟩ := hdigit
  have hquote : c ≠ '"' := by
    rintro rfl
    revert hc
    decide
  have hescape : c ≠ '\\' := by
    rintro rfl
    revert hc
    decide
  exact unquotedFrom_quoted_cons hquote hescape behind

theorem unquotedFrom_quoted_character {character : List Char}
    (hcharacter : character ∈ Grammar.character) (behind : List Char) :
    unquotedFrom .quoted (character ++ behind) = unquotedFrom .quoted behind := by
  rcases (Language.mem_add _ _ _).1 hcharacter with ⟨c, ⟨-, hquote, hescape⟩, rfl⟩ | hescaped
  · exact unquotedFrom_quoted_cons hquote hescape behind
  · obtain ⟨_, ⟨_, rfl, rfl⟩, letters, hletters, rfl⟩ := Language.mem_mul.1 hescaped
    rcases (Language.mem_add _ _ _).1 hletters with ⟨c, -, rfl⟩ | hcode
    · exact unquotedFrom_quoted_escape c behind
    · obtain ⟨_, ⟨_, rfl, rfl⟩, _, hdigits, rfl⟩ := Language.mem_mul.1 hcode
      obtain ⟨a, ha, _, hothers, rfl⟩ := Language.mem_mul.1 hdigits
      obtain ⟨b, hb, _, hlast, rfl⟩ := Language.mem_mul.1 hothers
      obtain ⟨c, hc, d, hd, rfl⟩ := Language.mem_mul.1 hlast
      simp only [List.cons_append, List.nil_append, List.append_assoc, unquotedFrom_quoted_escape,
        unquotedFrom_quoted_hexDigit, ha, hb, hc, hd]

/-- What stands between quotation marks does not end before the second of them. -/
theorem unquotedFrom_quoted_append {text : List Char} (htext : text ∈ Grammar.character∗)
    (behind : List Char) :
    unquotedFrom .quoted (text ++ behind) = unquotedFrom .quoted behind := by
  obtain ⟨characters, rfl, hcharacters⟩ := Language.mem_kstar.1 htext
  clear htext
  induction characters with
  | nil => rfl
  | cons character characters ih =>
    obtain ⟨hfirst, hothers⟩ := List.forall_mem_cons.1 hcharacters
    rw [List.flatten_cons, List.append_assoc, unquotedFrom_quoted_character hfirst, ih hothers]

theorem settled_of_mem_quote {text : List Char} (htext : text ∈ Grammar.quote) :
    unquoted text = [] ∧ Settled text := by
  obtain ⟨_, ⟨_, rfl, rfl⟩, _, hclosed, rfl⟩ := Language.mem_mul.1 htext
  obtain ⟨characters, hcharacters, _, ⟨_, rfl, rfl⟩, rfl⟩ := Language.mem_mul.1 hclosed
  have happend (rest : List Char) :
      unquoted (['"'] ++ (characters ++ ['"']) ++ rest) = unquoted rest := by
    rw [List.append_assoc, List.append_assoc, List.singleton_append, unquoted, unquotedFrom,
      if_pos rfl, unquotedFrom_quoted_append hcharacters, List.singleton_append, unquotedFrom,
      if_pos rfl]
    rfl
  have hself : unquoted (['"'] ++ (characters ++ ['"'])) = [] := by
    have hnil := happend []
    rwa [List.append_nil] at hnil
  exact ⟨hself, fun rest => by rw [happend, hself, List.nil_append]⟩

/-- Texts with commas between them. -/
theorem settled_intercalate {texts : List (List Char)} (htexts : ∀ text ∈ texts, Settled text) :
    unquoted ([','].intercalate texts) = [','].intercalate (texts.map unquoted) ∧
      Settled ([','].intercalate texts) := by
  induction texts with
  | nil => exact ⟨rfl, fun rest => rfl⟩
  | cons text others ih =>
    obtain ⟨htext, hothers⟩ := List.forall_mem_cons.1 htexts
    cases others with
    | nil => simpa using htext
    | cons next others =>
      obtain ⟨hunquoted, hsettled⟩ := ih hothers
      have hcomma : unquoted [','] = [','] ∧ Settled [','] :=
        settled_of_forall_ne (List.forall_mem_singleton.2 (by decide))
      rw [List.map_cons] at hunquoted
      rw [List.intercalate_cons_cons, List.map_cons, List.map_cons, List.intercalate_cons_cons,
        ← hunquoted]
      constructor
      · rw [htext.append hcomma.2, htext, hcomma.1]
      · exact (htext.append hcomma.2).append hsettled

private theorem ne_quote_of_isSpace {c : Char} (hc : isSpace c) : c ≠ '"' := by
  rintro rfl
  cases hc

theorem settled_of_space {text : List Char} (hspace : Space text) :
    unquoted text = text ∧ Settled text :=
  settled_of_forall_ne fun c hc => ne_quote_of_isSpace (hspace c hc)

theorem settled_padded {before text behind : List Char} (hbefore : Space before)
    (hbehind : Space behind) (htext : Settled text) :
    unquoted (before ++ text ++ behind) = before ++ unquoted text ++ behind ∧
      Settled (before ++ text ++ behind) := by
  obtain ⟨hself, hsettled⟩ := settled_of_space hbefore
  have hfront := hsettled.append htext
  refine ⟨?_, hfront.append (settled_of_space hbehind).2⟩
  rw [hfront, hsettled, hself, (settled_of_space hbehind).1]

/-- Texts in brackets, with commas between them. -/
theorem settled_enclosed {opening closing : Char} (hopening : opening ≠ '"')
    (hclosing : closing ≠ '"') {texts : List (List Char)} (htexts : ∀ text ∈ texts, Settled text)
    {last : List Char} (hlast : Space last) :
    unquoted (opening :: [','].intercalate texts ++ last ++ [closing]) =
        opening :: [','].intercalate (texts.map unquoted) ++ last ++ [closing] ∧
      Settled (opening :: [','].intercalate texts ++ last ++ [closing]) := by
  obtain ⟨hopened, hopenedSettled⟩ :=
    settled_of_forall_ne (List.forall_mem_singleton.2 hopening)
  obtain ⟨hclosed, hclosedSettled⟩ :=
    settled_of_forall_ne (List.forall_mem_singleton.2 hclosing)
  obtain ⟨hspace, hspaceSettled⟩ := settled_of_space hlast
  obtain ⟨hinside, hinsideSettled⟩ := settled_intercalate htexts
  have hfront := hopenedSettled.append hinsideSettled
  have hall := (hfront.append hspaceSettled).append hclosedSettled
  refine ⟨?_, hall⟩
  rw [← List.singleton_append, (hfront.append hspaceSettled), hfront, hopenedSettled, hopened,
    hinside, hspace, hclosed]
  rfl

/-- A field of an object, whose name is quoted. -/
theorem settled_member {member : Member} (hbefore : Space member.before)
    (hname : member.nameText ∈ Grammar.quote) (hbehind : Space member.behind)
    (hvalue : Settled member.valueText) :
    unquoted member.text = member.before ++ member.behind ++ ':' :: unquoted member.valueText ∧
      Settled member.text := by
  obtain ⟨hquoted, hquotedSettled⟩ := settled_of_mem_quote hname
  obtain ⟨hfront, hfrontSettled⟩ := settled_padded hbefore hbehind hquotedSettled
  obtain ⟨hcolon, hcolonSettled⟩ : unquoted [':'] = [':'] ∧ Settled [':'] :=
    settled_of_forall_ne (List.forall_mem_singleton.2 (by decide))
  refine ⟨?_, hfrontSettled.append (hcolonSettled.append hvalue)⟩
  rw [Member.text, ← List.singleton_append, hfrontSettled, hfront, hquoted, hcolonSettled, hcolon,
    List.append_nil]
  rfl

private theorem mem_intercalate_comma {texts : List (List Char)} {c : Char}
    (hc : c ∈ [','].intercalate texts) : c = ',' ∨ ∃ text ∈ texts, c ∈ text := by
  induction texts with
  | nil => cases hc
  | cons text others ih =>
    cases others with
    | nil => exact .inr ⟨text, List.mem_singleton_self text, by simpa using hc⟩
    | cons next others =>
      rw [List.intercalate_cons_cons, List.mem_append, List.mem_append] at hc
      rcases hc with (hc | hc) | hc
      · exact .inr ⟨text, List.mem_cons_self, hc⟩
      · exact .inl (List.mem_singleton.1 hc)
      · exact (ih hc).imp_right fun ⟨part, hpart, hc⟩ => ⟨part, List.mem_cons_of_mem _ hpart, hc⟩

private theorem mem_intercalate_of_mem {texts : List (List Char)} {text : List Char}
    (htext : text ∈ texts)
    {c : Char} (hc : c ∈ text) : c ∈ [','].intercalate texts := by
  induction texts with
  | nil => cases htext
  | cons first others ih =>
    cases others with
    | nil =>
      obtain rfl := List.mem_singleton.1 htext
      simpa using hc
    | cons next others =>
      rw [List.intercalate_cons_cons, List.mem_append, List.mem_append]
      rcases List.mem_cons.1 htext with rfl | hothers
      · exact .inl (.inl hc)
      · exact .inr (ih hothers)

private theorem forall_mem_enclosed {p : Char → Prop} {opening closing : Char}
    (hopening : p opening)
    (hclosing : p closing) (hcomma : p ',') {texts : List (List Char)}
    (htexts : ∀ text ∈ texts, ∀ c ∈ text, p c) {last : List Char} (hlast : ∀ c ∈ last, p c) :
    ∀ c ∈ opening :: [','].intercalate texts ++ last ++ [closing], p c := by
  intro c hc
  rw [List.mem_append, List.mem_append, List.mem_cons, List.mem_singleton] at hc
  rcases hc with ((rfl | hc) | hc) | rfl
  · exact hopening
  · rcases mem_intercalate_comma hc with rfl | ⟨text, htext, hc⟩
    · exact hcomma
    · exact htexts text htext c hc
  · exact hlast c hc
  · exact hclosing

private theorem mem_enclosed_of_mem {opening closing : Char} {texts : List (List Char)}
    {text : List Char}
    (htext : text ∈ texts) (last : List Char) {c : Char} (hc : c ∈ text) :
    c ∈ opening :: [','].intercalate texts ++ last ++ [closing] := by
  rw [List.mem_append, List.mem_append]
  exact .inl (.inl (List.mem_cons_of_mem opening (mem_intercalate_of_mem htext hc)))

namespace Composed

variable {word : List Char → Json → Prop} {quote : List Char → String → Prop}
  {text : List Char} {document : Json}
  (hword : ∀ text document, word text document → ∀ c ∈ text, c ≠ '"')
  (hquote : ∀ text value, quote text value → text ∈ Grammar.quote)

include hword hquote

/-- Behind a text that is composed of words without quotation marks and of quoted texts, no quotation
    mark is open. -/
theorem settled (hcomposed : Composed word quote text document) : Settled text := by
  induction hcomposed with
  | word hdenotes => exact (settled_of_forall_ne (hword _ _ hdenotes)).2
  | text hdenotes => exact (settled_of_mem_quote (hquote _ _ hdenotes)).2
  | padded hbefore hbehind _ ih => exact (settled_padded hbefore hbehind ih).2
  | array hlast _ ih =>
    exact (settled_enclosed (by decide) (by decide) (List.forall_mem_map.2 ih) hlast).2
  | object hlast hnames _ ih =>
    refine (settled_enclosed (by decide) (by decide) (List.forall_mem_map.2 ?_) hlast).2
    intro member hmember
    obtain ⟨hbefore, hname, hbehind⟩ := hnames member hmember
    exact (settled_member hbefore (hquote _ _ hname) hbehind (ih member hmember)).2

private theorem unquoted_array {items : List (List Char × Json)} {last : List Char}
    (hlast : Space last)
    (hitems : ∀ item ∈ items, Composed word quote item.1 item.2) :
    unquoted ('[' :: [','].intercalate (items.map Prod.fst) ++ last ++ [']']) =
      '[' :: [','].intercalate (items.map fun item => unquoted item.1) ++ last ++ [']'] := by
  have hsettled := fun item hitem => (hitems item hitem).settled hword hquote
  rw [(settled_enclosed (by decide) (by decide) (List.forall_mem_map.2 hsettled) hlast).1,
    List.map_map]
  rfl

private theorem unquoted_object {members : List Member} {last : List Char} (hlast : Space last)
    (hnames : ∀ member ∈ members,
      Space member.before ∧ quote member.nameText member.name ∧ Space member.behind)
    (hvalues : ∀ member ∈ members, Composed word quote member.valueText member.value) :
    unquoted ('\x7b' :: [','].intercalate (members.map Member.text) ++ last ++ ['\x7d']) =
      '\x7b' :: [','].intercalate (members.map fun member =>
        member.before ++ member.behind ++ ':' :: unquoted member.valueText) ++ last ++ ['\x7d'] := by
  have hmember (member : Member) (hmem : member ∈ members) :=
    settled_member (hnames member hmem).1 (hquote _ _ (hnames member hmem).2.1)
      (hnames member hmem).2.2 ((hvalues member hmem).settled hword hquote)
  have hsettled := List.forall_mem_map.2 fun member hmem => (hmember member hmem).2
  have htexts : members.map (unquoted ∘ Member.text) = members.map fun member =>
      member.before ++ member.behind ++ ':' :: unquoted member.valueText :=
    List.map_congr_left fun member hmem => (hmember member hmem).1
  rw [(settled_enclosed (by decide) (by decide) hsettled hlast).1, List.map_map, htexts]

/-- Outside quotation marks a text has space, marks and the characters of its words only. -/
theorem forall_mem_unquoted {p : Char → Prop} (hcomposed : Composed word quote text document)
    (hspace : ∀ c, isSpace c → p c) (hmark : ∀ c, isMark c → p c)
    (hwordMem : ∀ text document, word text document → ∀ c ∈ text, p c) :
    ∀ c ∈ unquoted text, p c := by
  have hrow {text : List Char} (htext : Space text) : ∀ c ∈ text, p c :=
    fun c hc => hspace c (htext c hc)
  induction hcomposed with
  | word hdenotes =>
    rw [(settled_of_forall_ne (hword _ _ hdenotes)).1]
    exact hwordMem _ _ hdenotes
  | text hdenotes =>
    rw [(settled_of_mem_quote (hquote _ _ hdenotes)).1]
    exact List.forall_mem_nil p
  | padded hbefore hbehind hinside ih =>
    rw [(settled_padded hbefore hbehind (hinside.settled hword hquote)).1]
    exact List.forall_mem_append.2
      ⟨List.forall_mem_append.2 ⟨hrow hbefore, ih⟩, hrow hbehind⟩
  | array hlast hitems ih =>
    rw [unquoted_array hword hquote hlast hitems]
    exact forall_mem_enclosed (hmark '[' rfl) (hmark ']' rfl) (hmark ',' rfl)
      (List.forall_mem_map.2 ih) (hrow hlast)
  | object hlast hnames hvalues ih =>
    rw [unquoted_object hword hquote hlast hnames hvalues]
    refine forall_mem_enclosed (hmark '\x7b' rfl) (hmark '\x7d' rfl) (hmark ',' rfl)
      (List.forall_mem_map.2 fun member hmem => ?_) (hrow hlast)
    obtain ⟨hbefore, -, hbehind⟩ := hnames member hmem
    refine List.forall_mem_append.2
      ⟨List.forall_mem_append.2 ⟨hrow hbefore, hrow hbehind⟩, ?_⟩
    exact List.forall_mem_cons.2 ⟨hmark ':' rfl, ih member hmem⟩

/-- The words of all reals of a document stand outside quotation marks. -/
theorem exists_word_of_mem_reals (hcomposed : Composed word quote text document)
    (hleaf : ∀ text document, word text document → ∀ x ∈ document.reals, document = .real x) :
    ∀ x ∈ document.reals, ∃ part, word part (.real x) ∧ ∀ c ∈ part, c ∈ unquoted text := by
  induction hcomposed with
  | @word text document hdenotes =>
    intro x hx
    rw [(settled_of_forall_ne (hword _ _ hdenotes)).1]
    exact ⟨text, hleaf text document hdenotes x hx ▸ hdenotes, fun c hc => hc⟩
  | text hdenotes => exact fun x hx => by cases hx
  | padded hbefore hbehind hinside ih =>
    intro x hx
    obtain ⟨part, hpart, hmem⟩ := ih x hx
    rw [(settled_padded hbefore hbehind (hinside.settled hword hquote)).1]
    refine ⟨part, hpart, fun c hc => ?_⟩
    rw [List.mem_append, List.mem_append]
    exact .inl (.inr (hmem c hc))
  | array hlast hitems ih =>
    intro x hx
    rw [unquoted_array hword hquote hlast hitems]
    rw [reals, realsOfItems_eq, List.mem_flatMap] at hx
    obtain ⟨_, hdocument, hx⟩ := hx
    obtain ⟨item, hitem, rfl⟩ := List.mem_map.1 hdocument
    obtain ⟨part, hpart, hmem⟩ := ih item hitem x hx
    exact ⟨part, hpart, fun c hc =>
      mem_enclosed_of_mem (List.mem_map_of_mem hitem) _ (hmem c hc)⟩
  | object hlast hnames hvalues ih =>
    intro x hx
    rw [unquoted_object hword hquote hlast hnames hvalues]
    rw [reals, realsOfFields_eq, List.mem_flatMap] at hx
    obtain ⟨_, hfield, hx⟩ := hx
    obtain ⟨member, hmember, rfl⟩ := List.mem_map.1 hfield
    obtain ⟨part, hpart, hmem⟩ := ih member hmember x hx
    refine ⟨part, hpart, fun c hc => mem_enclosed_of_mem (List.mem_map_of_mem hmember) _ ?_⟩
    rw [List.mem_append]
    exact .inr (List.mem_cons_of_mem ':' (hmem c hc))

end Composed

end LetArith.Json
