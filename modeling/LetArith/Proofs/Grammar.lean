import LetArith.ParseError
import LetArith.Proofs.Words

namespace LetArith.Grammar

open scoped Computability
open Words

/-- The words of one operator. -/
def operator : Language Kind := single .plus + single .minus + single .times + single .divide

/-- The words of a binding. -/
def statement : Language Kind :=
  single .letKeyword * single .identifier * single .assign * single .number *
    (operator * single .number)∗

/-- The words of a program. -/
def program : Language Kind := statement∗

/-- Whether kinds of token are the beginning of some program with the end of input behind it. -/
def Viable (kinds : List Kind) : Prop :=
  ∃ word ∈ program * single .endOfInput, kinds <+: word

/-- Whether a kind of token may come right behind another one, or at the beginning. -/
def follows : Option Kind → Kind → Bool
  | none, kind => kind ∈ [.letKeyword, .endOfInput]
  | some .letKeyword, kind => kind = .identifier
  | some .identifier, kind => kind = .assign
  | some .assign, kind | some .plus, kind | some .minus, kind | some .times, kind
  | some .divide, kind => kind = .number
  | some .number, kind =>
    kind ∈ [.plus, .minus, .times, .divide, .letKeyword, .endOfInput]
  | some _, _ => false

/-- The last of some kinds, or the one before them if there are none. -/
def lastOf (previous : Option Kind) (kinds : List Kind) : Option Kind :=
  kinds.getLast?.or previous

/-- Each of the kinds may follow the one before it. -/
def Admitted (previous : Option Kind) : List Kind → Prop
  | [] => True
  | kind :: kinds => follows previous kind ∧ Admitted (some kind) kinds

@[simp] theorem lastOf_nil (previous : Option Kind) : lastOf previous [] = previous := rfl

@[simp] theorem lastOf_cons (previous : Option Kind) (kind : Kind) (kinds : List Kind) :
    lastOf previous (kind :: kinds) = lastOf (some kind) kinds := by
  cases kinds with
  | nil => rfl
  | cons next kinds => simp [lastOf, List.getLast?_cons]

theorem lastOf_append (previous : Option Kind) (before after : List Kind) :
    lastOf previous (before ++ after) = lastOf (lastOf previous before) after := by
  simp [lastOf, List.getLast?_append, Option.or_assoc]

theorem admitted_append {previous : Option Kind} {before after : List Kind} :
    Admitted previous (before ++ after) ↔
      Admitted previous before ∧ Admitted (lastOf previous before) after := by
  induction before generalizing previous with
  | nil => simp [Admitted]
  | cons kind before ih => simp [Admitted, ih, and_assoc]

theorem follows_number_iff {kind : Kind} :
    follows (some .number) kind ↔
      kind.operator? ≠ none ∨ kind = .letKeyword ∨ kind = .endOfInput := by
  cases kind <;> simp [follows, Kind.operator?]

/-- The kinds of token behind which only a number may come. -/
def beforeNumber : List Kind := [.assign, .plus, .minus, .times, .divide]

theorem mem_beforeNumber {kind : Kind} (hoperator : kind.operator? ≠ none) :
    kind ∈ beforeNumber := by
  cases kind <;> simp_all [beforeNumber, Kind.operator?]

theorem follows_of_mem_beforeNumber {kind : Kind} (hkind : kind ∈ beforeNumber) (next : Kind) :
    follows (some kind) next = decide (next = .number) := by
  simp only [beforeNumber, List.mem_cons, List.not_mem_nil, or_false] at hkind
  rcases hkind with rfl | rfl | rfl | rfl | rfl <;> rfl

/-- Nothing follows the end of input, so it is the last of the kinds or none of them. -/
theorem lastOf_of_endOfInput_mem {previous : Option Kind} {kinds : List Kind}
    (hadmitted : Admitted previous kinds) (hend : .endOfInput ∈ kinds) :
    lastOf previous kinds = some .endOfInput := by
  induction kinds generalizing previous with
  | nil => cases hend
  | cons kind kinds ih =>
    rw [lastOf_cons]
    rcases List.mem_cons.1 hend with rfl | hend
    · cases kinds with
      | nil => rfl
      | cons next kinds => exact absurd hadmitted.2.1 (by simp [follows])
    · exact ih hadmitted.2 hend

theorem ne_invalid_of_admitted {previous : Option Kind} {kinds : List Kind}
    (hadmitted : Admitted previous kinds) : ∀ kind ∈ kinds, kind ≠ .invalid := by
  induction kinds generalizing previous with
  | nil => simp
  | cons kind kinds ih =>
    refine List.forall_mem_cons.2 ⟨?_, ih hadmitted.2⟩
    rintro rfl
    have hfollows := hadmitted.1
    match previous with
    | none => cases hfollows
    | some previous => cases previous <;> cases hfollows

/-- What may come behind a kind of token, or at the beginning, up to the end of input. -/
def rest : Option Kind → Language Kind
  | none => program * single .endOfInput
  | some .number => (operator * single .number)∗ * (program * single .endOfInput)
  | some .assign | some .plus | some .minus | some .times | some .divide =>
    single .number * ((operator * single .number)∗ * (program * single .endOfInput))
  | some .identifier =>
    single .assign * (single .number *
      ((operator * single .number)∗ * (program * single .endOfInput)))
  | some .letKeyword =>
    single .identifier * (single .assign * (single .number *
      ((operator * single .number)∗ * (program * single .endOfInput))))
  | some .endOfInput => 1
  | some _ => 0

theorem rest_none :
    rest none = single .letKeyword * rest (some .letKeyword) + single .endOfInput * 1 := by
  have hprogram : program = 1 + statement * program :=
    (Language.one_add_self_mul_kstar_eq_kstar statement).symm
  calc rest none
      = (1 + statement * program) * single .endOfInput := by rw [← hprogram]; rfl
    _ = _ := by
      rw [add_mul, one_mul, mul_one, add_comm]
      simp only [rest, statement, mul_assoc]

theorem rest_number :
    rest (some .number) = operator * rest (some .plus) + rest none := by
  calc rest (some .number)
      = (1 + operator * single .number * (operator * single .number)∗) * rest none := by
        rw [Language.one_add_self_mul_kstar_eq_kstar]; rfl
    _ = _ := by
      rw [add_mul, one_mul, add_comm]
      simp only [rest, mul_assoc]

/-- The kinds that may come next, and what may come behind each. -/
theorem cons_mem_rest {previous : Option Kind} {kind : Kind} {kinds : List Kind} :
    kind :: kinds ∈ rest previous ↔ follows previous kind ∧ kinds ∈ rest (some kind) := by
  have hnone : kind :: kinds ∈ rest none ↔ follows none kind ∧ kinds ∈ rest (some kind) := by
    rw [rest_none, Language.mem_add, cons_mem_single_mul, cons_mem_single_mul]
    cases kind <;> simp [follows, rest]
  match previous with
  | none => exact hnone
  | some .number =>
    rw [rest_number, operator, add_mul, add_mul, add_mul]
    simp only [Language.mem_add, cons_mem_single_mul, hnone]
    cases kind <;> simp [follows, rest]
  | some .letKeyword | some .identifier | some .assign | some .plus | some .minus | some .times
  | some .divide =>
    simp only [rest, cons_mem_single_mul, follows, decide_eq_true_eq, and_congr_right_iff]
    rintro rfl
    rfl
  | some .endOfInput => simp [rest, follows, Language.mem_one]
  | some .string | some .integerType | some .stringType | some .floatType | some .booleanType
  | some .invalid => simp [rest, follows]

theorem append_mem_rest {previous : Option Kind} {before after : List Kind} :
    before ++ after ∈ rest previous ↔
      Admitted previous before ∧ after ∈ rest (lastOf previous before) := by
  induction before generalizing previous with
  | nil => simp [Admitted]
  | cons kind before ih => simp [Admitted, cons_mem_rest, ih, and_assoc]

theorem endOfInput_mem_rest_none : [.endOfInput] ∈ rest none := by
  rw [rest_none, Language.mem_add, cons_mem_single_mul, cons_mem_single_mul]
  exact .inr ⟨rfl, rfl⟩

/-- Every kind that may follow another one leads to the end of some program. -/
theorem exists_mem_rest {previous : Option Kind} {kind : Kind} (h : follows previous kind) :
    ∃ word, word ∈ rest (some kind) := by
  have hnumber : [.endOfInput] ∈ rest (some .number) := by
    rw [rest_number, Language.mem_add]
    exact .inr endOfInput_mem_rest_none
  have hassign : [.number, .endOfInput] ∈ rest (some .assign) :=
    cons_mem_single_mul.2 ⟨rfl, hnumber⟩
  have hidentifier : [.assign, .number, .endOfInput] ∈ rest (some .identifier) :=
    cons_mem_single_mul.2 ⟨rfl, hassign⟩
  cases kind with
  | number => exact ⟨_, hnumber⟩
  | assign | plus | minus | times | divide => exact ⟨_, hassign⟩
  | identifier => exact ⟨_, hidentifier⟩
  | letKeyword => exact ⟨_, cons_mem_single_mul.2 ⟨rfl, hidentifier⟩⟩
  | endOfInput => exact ⟨[], rfl⟩
  | string | integerType | stringType | floatType | booleanType | invalid =>
    match previous with
    | none => simp [follows] at h
    | some previous => cases previous <;> simp [follows] at h

theorem exists_mem_rest_lastOf {previous : Option Kind} {kinds : List Kind}
    (hprevious : ∃ word, word ∈ rest previous) (hadmitted : Admitted previous kinds) :
    ∃ word, word ∈ rest (lastOf previous kinds) := by
  induction kinds generalizing previous with
  | nil => exact hprevious
  | cons kind kinds ih =>
    rw [lastOf_cons]
    exact ih (exists_mem_rest hadmitted.1) hadmitted.2

/-- The beginnings of the programs are the rows in which each kind may follow the one before. -/
theorem viable_iff_admitted {kinds : List Kind} : Viable kinds ↔ Admitted none kinds := by
  constructor
  · rintro ⟨word, hword, after, rfl⟩
    exact (append_mem_rest.1 hword).1
  · intro hadmitted
    obtain ⟨after, hafter⟩ := exists_mem_rest_lastOf ⟨_, endOfInput_mem_rest_none⟩ hadmitted
    exact ⟨kinds ++ after, append_mem_rest.2 ⟨hadmitted, hafter⟩, List.prefix_append _ _⟩

theorem mem_program_iff {kinds : List Kind} :
    kinds ∈ program ↔ kinds ++ [.endOfInput] ∈ rest none := by
  constructor
  · exact fun hkinds => Language.append_mem_mul hkinds (singleton_mem_single _)
  · intro hrest
    obtain ⟨word, hword, _, ⟨_, rfl, rfl⟩, happend⟩ := Language.mem_mul.1 hrest
    rwa [← List.append_cancel_right happend]

end LetArith.Grammar
