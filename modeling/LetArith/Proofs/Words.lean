import Mathlib.Computability.Language

namespace LetArith.Words

open scoped Computability

variable {α : Type}

/-- The words of one letter that has a property. -/
def oneOf (p : α → Prop) : Language α := {word | ∃ a, p a ∧ word = [a]}

/-- The word of one letter. -/
def single (a : α) : Language α := oneOf (· = a)

/-- A word of a language, or nothing. -/
def optionally (words : Language α) : Language α := 1 + words

/-- A word is the longest beginning of a row of letters that belongs to a language. -/
structure Longest (words : Language α) (word row : List α) : Prop where
  mem : word ∈ words
  isPrefix : word <+: row
  longest : ∀ other ∈ words, other <+: row → other <+: word

theorem cons_mem_oneOf_mul {p : α → Prop} {a : α} {rest : List α} {words : Language α} :
    a :: rest ∈ oneOf p * words ↔ p a ∧ rest ∈ words := by
  rw [Language.mem_mul]
  constructor
  · rintro ⟨_, ⟨first, hfirst, rfl⟩, after, hafter, happend⟩
    obtain ⟨rfl, rfl⟩ := List.cons.inj happend
    exact ⟨hfirst, hafter⟩
  · rintro ⟨ha, hrest⟩
    exact ⟨[a], ⟨a, ha, rfl⟩, rest, hrest, rfl⟩

theorem cons_mem_single_mul {a b : α} {rest : List α} {words : Language α} :
    a :: rest ∈ single b * words ↔ a = b ∧ rest ∈ words :=
  cons_mem_oneOf_mul

theorem nil_notMem_oneOf_mul (p : α → Prop) (words : Language α) : [] ∉ oneOf p * words := by
  rw [Language.mem_mul]
  rintro ⟨_, ⟨first, -, rfl⟩, after, -, happend⟩
  cases happend

theorem singleton_mem_single (a : α) : [a] ∈ single a := ⟨a, rfl, rfl⟩

theorem mem_kstar_oneOf_iff {p : α → Prop} {row : List α} : row ∈ (oneOf p)∗ ↔ ∀ a ∈ row, p a := by
  constructor
  · intro h
    obtain ⟨letters, rfl, hletters⟩ := Language.mem_kstar.1 h
    intro a ha
    obtain ⟨letter, hletter, hmem⟩ := List.mem_flatten.1 ha
    obtain ⟨b, hb, rfl⟩ := hletters letter hletter
    rwa [List.mem_singleton.1 hmem]
  · intro h
    refine Language.mem_kstar.2 ⟨row.map fun a => [a], ?_, ?_⟩
    · rw [← List.flatMap_def, List.flatMap_singleton']
    · intro letter hletter
      obtain ⟨a, ha, rfl⟩ := List.mem_map.1 hletter
      exact ⟨a, h a ha, rfl⟩

/-- All letters of the words of a language have a property. -/
def Within (p : α → Prop) (words : Language α) : Prop := ∀ word ∈ words, ∀ a ∈ word, p a

theorem Within.oneOf {p q : α → Prop} (h : ∀ a, q a → p a) : Within p (Words.oneOf q) := by
  rintro _ ⟨a, ha, rfl⟩
  exact List.forall_mem_singleton.2 (h a ha)

theorem Within.mul {p : α → Prop} {words others : Language α} (hwords : Within p words)
    (hothers : Within p others) : Within p (words * others) := by
  intro word hword
  obtain ⟨front, hfront, back, hback, rfl⟩ := Language.mem_mul.1 hword
  exact List.forall_mem_append.2 ⟨hwords front hfront, hothers back hback⟩

theorem Within.add {p : α → Prop} {words others : Language α} (hwords : Within p words)
    (hothers : Within p others) : Within p (words + others) :=
  fun word hword => (Language.mem_add _ _ _).1 hword |>.elim (hwords word) (hothers word)

theorem Within.kstar {p : α → Prop} {words : Language α} (hwords : Within p words) :
    Within p words∗ := by
  intro word hword a ha
  obtain ⟨parts, rfl, hparts⟩ := Language.mem_kstar.1 hword
  obtain ⟨part, hpart, hmem⟩ := List.mem_flatten.1 ha
  exact hwords part (hparts part hpart) a hmem

theorem Within.optionally {p : α → Prop} {words : Language α} (hwords : Within p words) :
    Within p (Words.optionally words) := by
  refine Within.add ?_ hwords
  intro word hword
  rw [(Language.mem_one word).1 hword]
  exact List.forall_mem_nil p

theorem mem_optionally_iff {words : Language α} {word : List α} :
    word ∈ optionally words ↔ word = [] ∨ word ∈ words := by
  rw [optionally, Language.mem_add, Language.mem_one]

/-- If the rows that carry a word of a language are those of certain parts, then the rows that carry
    several words in turn are those of several parts in turn. -/
theorem map_mem_kstar_iff {β γ : Type} {words : Language β} {f : α → β} {row : γ → List α}
    (hpart : ∀ part : List α, part.map f ∈ words ↔ ∃ x, row x = part) {whole : List α} :
    whole.map f ∈ words∗ ↔ ∃ parts : List γ, parts.flatMap row = whole := by
  constructor
  · intro h
    obtain ⟨letters, hwhole, hletters⟩ := Language.mem_kstar.1 h
    clear h
    induction letters generalizing whole with
    | nil => exact ⟨[], (List.map_eq_nil_iff.1 hwhole).symm⟩
    | cons word letters ih =>
      obtain ⟨front, back, rfl, hfront, hback⟩ := List.map_eq_append_iff.1 hwhole
      obtain ⟨first, rfl⟩ := (hpart front).1 (hfront ▸ hletters word List.mem_cons_self)
      obtain ⟨others, rfl⟩ :=
        ih hback (fun word hword => hletters word (List.mem_cons_of_mem _ hword))
      exact ⟨first :: others, rfl⟩
  · rintro ⟨parts, rfl⟩
    rw [List.map_flatMap]
    apply Language.join_mem_kstar
    intro word hword
    obtain ⟨part, -, rfl⟩ := List.mem_map.1 hword
    exact (hpart _).2 ⟨part, rfl⟩

end LetArith.Words
