import LetArith.Proofs.Expression

namespace LetArith.Parser

/-- A number that was read took its token. -/
theorem remaining_primary_lt {l l' : Lexer} {node : Node} (h : primary l = .ok node l') :
    l'.remaining < l.remaining := by
  simp only [primary, bind, EStateM.bind] at h
  split at h
  · next token l₁ hnext =>
    split at h
    · next hkind =>
      obtain ⟨-, rfl⟩ := EStateM.Result.ok.inj h
      exact Lexer.remaining_next_lt hnext (by simp [hkind])
    · cases h
  · cases h

mutual

/-- How many expressions are being read at a time, at the most, while an expression is read. The
    expression itself is one of them. -/
def nesting (least : Int) (l : Lexer) : Nat :=
  match _ : primary l with
  | .error _ _ => 1
  | .ok _ l₁ => nestingBehind least l₁ + 1
termination_by l.remaining
decreasing_by exact remaining_primary_lt ‹_›

/-- How many operands are being read at a time, at the most, while an expression is extended. -/
def nestingBehind (least : Int) (l : Lexer) : Nat :=
  match hnext : l.next with
  | .error _ _ => 0
  | .ok token l₁ =>
    match hcontinues : continues? least token with
    | none => 0
    | some operator =>
      have h₁ : l₁.remaining < l.remaining :=
        Lexer.remaining_next_lt hnext (kind_ne_endOfInput_of_continues? hcontinues)
      match hoperand : expression operator.rightPower l₁ with
      | .error _ _ => nesting operator.rightPower l₁
      | .ok _ l₂ =>
        have h₂ : l₂.remaining ≤ l₁.remaining := by
          simpa only [hoperand, Step.lexer] using Forward.expression operator.rightPower l₁
        max (nesting operator.rightPower l₁) (nestingBehind least l₂)
termination_by l.remaining

end

theorem nesting_eq (least : Int) (l : Lexer) :
    nesting least l =
      match primary l with
      | .error _ _ => 1
      | .ok _ l₁ => nestingBehind least l₁ + 1 := by
  rw [nesting]
  split
  · next hprimary => simp [hprimary]
  · next hprimary => simp [hprimary]

theorem nestingBehind_eq (least : Int) (l : Lexer) :
    nestingBehind least l =
      match l.next with
      | .error _ _ => 0
      | .ok token l₁ =>
        match continues? least token with
        | none => 0
        | some operator =>
          match expression operator.rightPower l₁ with
          | .error _ _ => nesting operator.rightPower l₁
          | .ok _ l₂ => max (nesting operator.rightPower l₁) (nestingBehind least l₂) := by
  rw [nestingBehind]
  split
  · next hnext => simp [hnext]
  · next token l₁ hnext =>
    simp only [hnext]
    split
    · next hcontinues => simp [hcontinues]
    · next operator hcontinues =>
      simp only [hcontinues]
      split
      · next hoperand => simp [hoperand]
      · next hoperand => simp [hoperand]

/-- How many expressions a threshold lets nest, the outermost one among them. -/
def levels (least : Int) : Nat := if 9 ≤ least then 1 else if 7 ≤ least then 2 else 3

private theorem levels_bounds (least : Int) : 0 < levels least ∧ levels least ≤ 3 := by
  unfold levels
  split
  · decide
  · split <;> decide

/-- The operand behind an operator has a level less than the expression that the operator
    continues. -/
theorem levels_rightPower_lt {least : Int} {token : Token} {operator : Operator}
    (h : continues? least token = some operator) :
    levels operator.rightPower < levels least := by
  have hpower : least ≤ operator.leftPower := (continues?_eq_some_iff.1 h).2
  cases operator with
  | plus | minus =>
    have hleast : least ≤ 6 := hpower
    have hlevels : levels least = 3 := by rw [levels, if_neg (by omega), if_neg (by omega)]
    rw [hlevels]
    decide
  | times | divide =>
    have hleast : least ≤ 8 := hpower
    have hlevels : 1 < levels least := by
      rw [levels, if_neg (by omega)]
      split <;> decide
    exact hlevels

/-- Readings of expressions are nested no more deeply than their threshold lets them. -/
theorem nesting_le_levels :
    (∀ least l, nesting least l ≤ levels least) ∧
      ∀ least l, nestingBehind least l < levels least := by
  refine nesting.mutual_induct (fun least l => nesting least l ≤ levels least)
    (fun least l => nestingBehind least l < levels least) ?refused ?read ?unreadable ?stopped
    ?broken ?extended
  case refused =>
    intro least l fault l₁ hprimary
    rw [nesting_eq, hprimary]
    exact (levels_bounds least).1
  case read =>
    intro least l first l₁ hprimary ih
    rw [nesting_eq, hprimary]
    exact ih
  case unreadable =>
    intro least l fault l₁ hnext
    rw [nestingBehind_eq, hnext]
    exact (levels_bounds least).1
  case stopped =>
    intro least l token l₁ hnext hcontinues
    simp only [nestingBehind_eq, hnext, hcontinues]
    exact (levels_bounds least).1
  case broken =>
    intro least l token l₁ hnext operator hcontinues _ fault l₂ hoperand ih
    simp only [nestingBehind_eq least l, hnext, hcontinues, hoperand]
    exact Nat.lt_of_le_of_lt ih (levels_rightPower_lt hcontinues)
  case extended =>
    intro least l token l₁ hnext operator hcontinues _ right l₂ hoperand _ ihoperand ih
    simp only [nestingBehind_eq least l, hnext, hcontinues, hoperand]
    exact Nat.max_lt.2 ⟨Nat.lt_of_le_of_lt ihoperand (levels_rightPower_lt hcontinues), ih⟩

/-- What a limited reading comes to: a step that does not move the cursor back, or nothing where the
    limit cuts it off. -/
abbrev Limited (l : Lexer) := Option { step : Step Node // step.lexer.remaining ≤ l.remaining }

/-- Extends an expression to the right, where operands are read in a given way. -/
def extendBy (operand : Int → (l : Lexer) → Limited l) (least : Int) (left : Node) (l : Lexer) :
    Limited l :=
  match hnext : l.next with
  | .error fault _ => some ⟨.error fault l, Nat.le_refl _⟩
  | .ok token l₁ =>
    match hcontinues : continues? least token with
    | none => some ⟨.ok left l, Nat.le_refl _⟩
    | some operator =>
      have h₁ : l₁.remaining < l.remaining :=
        Lexer.remaining_next_lt hnext (kind_ne_endOfInput_of_continues? hcontinues)
      match operand operator.rightPower l₁ with
      | none => none
      | some ⟨.error fault l₂, h₂⟩ => some ⟨.error fault l₂, Nat.le_trans h₂ (Nat.le_of_lt h₁)⟩
      | some ⟨.ok right l₂, h₂⟩ =>
        have h₂ : l₂.remaining ≤ l₁.remaining := h₂
        (extendBy operand least (.binary left operator right left.location) l₂).map
          fun ⟨step, h₃⟩ => ⟨step, Nat.le_trans h₃ (Nat.le_trans h₂ (Nat.le_of_lt h₁))⟩
termination_by l.remaining

/-- Reads an expression, with the fact that the cursor is not moved back. It is cut off where an
    operand would be one more expression that is being read than the limit allows. -/
def expressionLimited : Nat → Int → (l : Lexer) → Limited l
  | 0, _, _ => none
  | limit + 1, least, l =>
    match hprimary : primary l with
    | .error fault l₁ => some ⟨.error fault l₁, by simpa [hprimary] using Forward.primary l⟩
    | .ok first l₁ =>
      have h₁ := remaining_primary_lt hprimary
      (extendBy (expressionLimited limit) least first l₁).map
        fun ⟨step, h₂⟩ => ⟨step, Nat.le_trans h₂ (Nat.le_of_lt h₁)⟩

/-- Reads an expression, with no more expressions being read at a time than a limit allows. There is
    no outcome where one more is called for. -/
def expressionWithin (limit : Nat) (least : Int) (l : Lexer) : Option (Step Node) :=
  (expressionLimited limit least l).map Subtype.val

/-- Extends an expression to the right, with no more operands being read at a time than a limit
    allows. -/
def extendWithin (limit : Nat) (least : Int) (left : Node) (l : Lexer) : Option (Step Node) :=
  (extendBy (expressionLimited limit) least left l).map Subtype.val

theorem expressionWithin_succ (limit : Nat) (least : Int) (l : Lexer) :
    expressionWithin (limit + 1) least l =
      match primary l with
      | .error fault l₁ => some (.error fault l₁)
      | .ok first l₁ => extendWithin limit least first l₁ := by
  rw [expressionWithin, expressionLimited]
  split
  · next hprimary => simp [hprimary]
  · next hprimary => simp [hprimary, extendWithin, Function.comp_def]

theorem extendWithin_eq (limit : Nat) (least : Int) (left : Node) (l : Lexer) :
    extendWithin limit least left l =
      match l.next with
      | .error fault _ => some (.error fault l)
      | .ok token l₁ =>
        match continues? least token with
        | none => some (.ok left l)
        | some operator =>
          match expressionWithin limit operator.rightPower l₁ with
          | none => none
          | some (.error fault l₂) => some (.error fault l₂)
          | some (.ok right l₂) =>
            extendWithin limit least (.binary left operator right left.location) l₂ := by
  rw [extendWithin, extendBy]
  split
  · next hnext => simp [hnext]
  · next token l₁ hnext =>
    simp only [hnext]
    split
    · next hcontinues => simp [hcontinues]
    · next operator hcontinues =>
      simp only [hcontinues, expressionWithin]
      split
      · next hoperand => simp [hoperand]
      · next hoperand => simp [hoperand]
      · next hoperand => simp [hoperand, extendWithin, Function.comp_def]

/-- An operator that continues an expression is followed by an expression, and the extension goes on
    behind the joined tree. -/
theorem extend_of_continues? {least : Int} {l l₁ : Lexer} {token : Token} {operator : Operator}
    (left : Node) (hnext : l.next = .ok token l₁)
    (hcontinues : continues? least token = some operator) :
    extend least left l =
      match expression operator.rightPower l₁ with
      | .error fault l₂ => .error fault l₂
      | .ok right l₂ => extend least (.binary left operator right left.location) l₂ := by
  rw [extend_eq, hnext]
  simp only [hcontinues, expression, bind, EStateM.bind]
  cases primary l₁ with
  | error fault l₂ => rfl
  | ok first l₂ =>
    simp only
    cases extend operator.rightPower first l₂ <;> rfl

/-- A limit cuts a reading off just where more expressions are nested than it allows, and changes
    nothing of any other reading. -/
theorem within_eq_ite :
    (∀ least l limit, expressionWithin limit least l =
      if nesting least l ≤ limit then some (expression least l) else none) ∧
    ∀ least l limit left, extendWithin limit least left l =
      if nestingBehind least l ≤ limit then some (extend least left l) else none := by
  refine nesting.mutual_induct
    (fun least l => ∀ limit, expressionWithin limit least l =
      if nesting least l ≤ limit then some (expression least l) else none)
    (fun least l => ∀ limit left, extendWithin limit least left l =
      if nestingBehind least l ≤ limit then some (extend least left l) else none)
    ?refused ?read ?unreadable ?stopped ?broken ?extended
  case refused =>
    intro least l fault l₁ hprimary limit
    have hexpression : expression least l = .error fault l₁ := by
      simp only [expression, bind, EStateM.bind, hprimary]
    rw [nesting_eq, hprimary, hexpression]
    cases limit with
    | zero => rfl
    | succ limit => rw [expressionWithin_succ, hprimary, if_pos (Nat.le_add_left 1 limit)]
  case read =>
    intro least l first l₁ hprimary ih limit
    have hexpression : expression least l = extend least first l₁ := by
      simp only [expression, bind, EStateM.bind, hprimary]
    rw [nesting_eq, hprimary, hexpression]
    cases limit with
    | zero => rfl
    | succ limit => simp only [expressionWithin_succ, hprimary, ih, Nat.add_le_add_iff_right]
  case unreadable =>
    intro least l fault l₁ hnext limit left
    simp only [extendWithin_eq, nestingBehind_eq, extend_eq, hnext, if_pos (Nat.zero_le limit)]
  case stopped =>
    intro least l token l₁ hnext hcontinues limit left
    simp only [extendWithin_eq, nestingBehind_eq, extend_eq, hnext, hcontinues,
      if_pos (Nat.zero_le limit)]
  case broken =>
    intro least l token l₁ hnext operator hcontinues _ fault l₂ hoperand ih limit left
    rw [extend_of_continues? left hnext hcontinues]
    simp only [extendWithin_eq limit least left l, nestingBehind_eq least l, hnext, hcontinues,
      hoperand, ih]
    by_cases hdeep : nesting operator.rightPower l₁ ≤ limit
    · simp only [hdeep, if_true]
    · simp only [hdeep, if_false]
  case extended =>
    intro least l token l₁ hnext operator hcontinues _ right l₂ hoperand _ ihoperand ih limit left
    rw [extend_of_continues? left hnext hcontinues]
    simp only [extendWithin_eq limit least left l, nestingBehind_eq least l, hnext, hcontinues,
      hoperand, ihoperand, Nat.max_le]
    by_cases hdeep : nesting operator.rightPower l₁ ≤ limit
    · simp only [hdeep, if_true, true_and, ih]
    · simp only [hdeep, if_false, false_and]

/-- No more than three expressions are ever being read at a time, no more than two from a threshold
    of 7 on, and one alone from 9 on, whether the reading succeeds or fails. So a reading that is
    limited to three comes to the same as the unlimited one, on every text. A lower limit cuts off
    just those readings that are nested more deeply. -/
theorem expression_nests_shallowly (least : Int) (l : Lexer) :
    nesting least l ≤ 3 ∧ (7 ≤ least → nesting least l ≤ 2) ∧ (9 ≤ least → nesting least l ≤ 1) ∧
      expressionWithin 3 least l = some (expression least l) ∧
      (7 ≤ least → expressionWithin 2 least l = some (expression least l)) ∧
      (9 ≤ least → expressionWithin 1 least l = some (expression least l)) ∧
      ∀ limit, expressionWithin limit least l =
        if nesting least l ≤ limit then some (expression least l) else none := by
  have hnesting := nesting_le_levels.1 least l
  have hwithin := within_eq_ite.1 least l
  have hany : nesting least l ≤ 3 := Nat.le_trans hnesting (levels_bounds least).2
  have hsum (hleast : 7 ≤ least) : nesting least l ≤ 2 := by
    refine Nat.le_trans hnesting ?_
    rw [levels, if_pos hleast]
    split <;> decide
  have hproduct (hleast : 9 ≤ least) : nesting least l ≤ 1 := by
    rwa [levels, if_pos hleast] at hnesting
  refine ⟨hany, hsum, hproduct, ?_, fun hleast => ?_, fun hleast => ?_, hwithin⟩
  · rw [hwithin, if_pos hany]
  · rw [hwithin, if_pos (hsum hleast)]
  · rw [hwithin, if_pos (hproduct hleast)]

/-- The three kinds of threshold at the first number of `1*2+3*4`. The reading of the whole needs
    all three levels. -/
theorem expression_nests_shallowly_before_product :
    let l := Lexer.ofString "1*2+3*4"
    (nesting 0 l = 3 ∧ expressionWithin 2 0 l = none ∧
      expressionWithin 3 0 l = some (expression 0 l)) ∧
    ((7 : Int) ≤ 7 ∧ nesting 7 l ≤ 2 ∧ expressionWithin 2 7 l = some (expression 7 l)) ∧
    ((9 : Int) ≤ 9 ∧ nesting 9 l ≤ 1 ∧ expressionWithin 1 9 l = some (expression 9 l)) := by
  intro l
  obtain ⟨-, -, -, hwhole, -, -, hlimit⟩ := expression_nests_shallowly 0 l
  obtain ⟨-, hsum, -, -, hwithin, -⟩ := expression_nests_shallowly 7 l
  obtain ⟨-, -, hproduct, -, -, hwithin', -⟩ := expression_nests_shallowly 9 l
  have hdeep : nesting 0 l = 3 := by decide +kernel
  have hseven : (7 : Int) ≤ 7 := by decide
  have hnine : (9 : Int) ≤ 9 := by decide
  refine ⟨⟨hdeep, ?_, hwhole⟩, ⟨hseven, hsum hseven, hwithin hseven⟩,
    hnine, hproduct hnine, hwithin' hnine⟩
  rw [hlimit, hdeep]
  rfl

end LetArith.Parser
