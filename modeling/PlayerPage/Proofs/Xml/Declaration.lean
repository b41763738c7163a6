import PlayerPage.Proofs.Encodings
import PlayerPage.Proofs.Xml.Letters

/-!
The declaration at the start of a document.

* `instruction_cases`, `exists_of_instruction`: how a declaration ends, and that it is read up to
  there and no further.
* `Prolog.IsOther`, `Prolog.exists_of_token`: no other token is a declaration;
  `Prolog.exists_of_token_elementStart`: nor is it the start of an element.
* `IsDeclaration`, `exists_isDeclaration`: the characters of a declaration, which are one in front
  of anything; `IsDeclaration.charsOf_inner`: what is parsed of it.
-/

namespace PlayerPage.Xml

/-! ### Instructions -/

variable {encoding : Encoding}

lemma eq_of_name {s after : List Glyph} {target : List Char}
    (h : name encoding s = .ok (target, after)) : s = target.map Glyph.char ++ after := by
  unfold name at h
  split at h
  · next c rest =>
    split at h
    · cases h
      exact congrArg (Glyph.char c :: ·) (eq_of_spanChars encoding.continuesName rest)
    · cases h
  · cases h

lemma eq_xml_of_isDeclaration {target : List Char} (h : isDeclaration? target = some true) :
    target = ['x', 'm', 'l'] := by
  unfold isDeclaration? at h
  split at h
  · split at h
    · next hx => exact beq_iff_eq.mp hx
    · cases h
  · cases h

lemma instructionBody_eq_ok {s rest : List Glyph} (h : instructionBody s = .ok rest) :
    ∃ body : List Char, 2 ≤ body.length ∧ s = body.map Glyph.char ++ rest ∧
      ∀ other, instructionBody (body.map Glyph.char ++ other) = .ok other := by
  fun_induction instructionBody s with
  | case1 tail =>
    cases h
    exact ⟨['?', '>'], Nat.le_refl 2, rfl, fun _ => rfl⟩
  | case2 c tail hnot ih =>
    obtain ⟨body, hlength, rfl, hbody⟩ := ih h
    refine ⟨c :: body, Nat.le_succ_of_le hlength, rfl, fun other => ?_⟩
    obtain _ | ⟨d, body⟩ := body
    · cases hlength
    rw [List.map_cons, List.cons_append, instructionBody]
    · exact hbody other
    · intro s hc hd
      cases hc
      cases hd
      exact hnot _ rfl rfl
  | case3 => cases h

lemma name_xml {c : Char} (hc : encoding.continuesName c = false) (s : List Glyph) :
    name encoding (.char 'x' :: .char 'm' :: .char 'l' :: .char c :: s) =
      .ok (['x', 'm', 'l'], .char c :: s) := by
  have hstart : encoding.startsName 'x' = true := rfl
  have hm : encoding.continuesName 'm' = true := rfl
  have hl : encoding.continuesName 'l' = true := rfl
  simp [name, spanChars, hstart, hm, hl, hc]

lemma instruction_question (rest : List Glyph) :
    instruction encoding
      (.char 'x' :: .char 'm' :: .char 'l' :: .char '?' :: .char '>' :: rest) =
        .ok (true, rest) := by
  rw [instruction, name_xml (encoding.continuesName_of_ascii (by decide))]
  rfl

lemma instruction_space {c : Char} (hc : isSpace c = true) {s rest : List Glyph}
    (h : instructionBody (.char c :: s) = .ok rest) :
    instruction encoding (.char 'x' :: .char 'm' :: .char 'l' :: .char c :: s) =
      .ok (true, rest) := by
  have hne : c ≠ '?' := by
    rintro rfl
    cases hc
  rw [instruction, name_xml (encoding.continuesName_of_isSpace hc)]
  have hdecl : isDeclaration? ['x', 'm', 'l'] = some true := rfl
  simp [bind, Except.bind, startsWithSpace, hc, hdecl, hne, h, pure, Except.pure]

/-- A declaration ends right after its name, or a space follows its name. -/
lemma instruction_cases {s rest : List Glyph} (h : instruction encoding s = .ok (true, rest)) :
    ∃ after, s = .char 'x' :: .char 'm' :: .char 'l' :: after ∧
      (after = .char '?' :: .char '>' :: rest ∨
        startsWithSpace after = true ∧ instructionBody after = .ok rest) := by
  unfold instruction at h
  cases hn : name encoding s with
  | error _ => rw [hn] at h; cases h
  | ok found =>
    obtain ⟨target, after⟩ := found
    rw [hn] at h
    simp only [bind, Except.bind] at h
    have hafter (ht : isDeclaration? target = some true) :
        s = .char 'x' :: .char 'm' :: .char 'l' :: after := by
      rw [eq_of_name hn, eq_xml_of_isDeclaration ht]
      rfl
    split at h
    · next tail =>
      simp only [Bool.not_true, Bool.false_eq_true, if_false] at h
      split at h
      · cases h
      next ht =>
      split at h
      · next hend =>
        cases hend
        cases h
        exact ⟨_, hafter ht, .inl rfl⟩
      · cases h
      · next hother => exact absurd rfl (hother tail)
    · next hquestion =>
      split at h
      · cases h
      next hspace =>
      split at h
      · cases h
      next ht =>
      split at h
      · exact absurd rfl (hquestion _)
      · exact absurd rfl (hquestion _)
      · cases hb : instructionBody after with
        | error _ => rw [hb] at h; cases h
        | ok found =>
          rw [hb] at h
          cases h
          exact ⟨after, hafter ht, .inr ⟨by simpa using hspace, hb⟩⟩

/-- A declaration is read up to its end, whatever follows it, and in every encoding. -/
lemma exists_of_instruction {s rest : List Glyph} (h : instruction encoding s = .ok (true, rest)) :
    ∃ body : List Char, 2 ≤ body.length ∧
      s = .char 'x' :: .char 'm' :: .char 'l' :: body.map Glyph.char ++ rest ∧
      ∀ encoding other, instruction encoding
        (.char 'x' :: .char 'm' :: .char 'l' :: body.map Glyph.char ++ other) =
          .ok (true, other) := by
  obtain ⟨after, rfl, rfl | ⟨hspace, hb⟩⟩ := instruction_cases h
  · exact ⟨['?', '>'], Nat.le_refl 2, rfl, fun _ => instruction_question⟩
  · obtain ⟨body, hlength, rfl, hbody⟩ := instructionBody_eq_ok hb
    obtain _ | ⟨c, body⟩ := body
    · cases hlength
    exact ⟨c :: body, hlength, rfl, fun _ other => instruction_space hspace (hbody other)⟩

/-! ### Tokens -/

namespace Prolog

/-- The token is neither a declaration of a document nor the start of an element. -/
def Token.isOther : Token → Bool
  | .declaration | .elementStart => false
  | _ => true

/-- What is read is neither a declaration of a document nor the start of an element. -/
def IsOther (read : Scanned) : Prop :=
  ∀ token rest, read = .ok (token, rest) → token.isOther = true

lemma IsOther.bind {α : Type} {x : Except Stop α} {k : α → Scanned} (h : ∀ a, IsOther (k a)) :
    IsOther (x >>= k) := by
  cases x with
  | ok a => exact h a
  | error _ => exact fun _ _ h => by cases h

lemma IsOther.error (stop : Stop) : IsOther (.error stop) :=
  fun _ _ h => by cases h

lemma IsOther.ok {token : Token} (h : token.isOther = true) (rest : List Glyph) :
    IsOther (.ok (token, rest)) := by
  rintro _ _ ⟨⟩
  exact h

lemma IsOther.ite {p : Prop} [Decidable p] {x y : Scanned} (hx : IsOther x) (hy : IsOther y) :
    IsOther (if p then x else y) :=
  iteInduction (fun _ => hx) fun _ => hy

lemma NameKind.isOther_token (kind : NameKind) (cs : List Char) :
    (kind.token cs).isOther = true := by
  cases kind <;> rfl

lemma isOther_nameRest (kind : NameKind) (read : List Char) (s : List Glyph) :
    IsOther (nameRest encoding kind read s) := by
  fun_induction nameRest encoding kind read s with
  | case1 | case2 | case10 => exact .ok (NameKind.isOther_token _ _) _
  | case4 | case5 | case6 | case11 | case13 | case14 => exact .error _
  | case3 _ _ _ _ _ ih | case7 _ _ _ _ _ _ _ ih | case8 _ _ _ _ _ _ _ ih => exact ih
  | case9 _ _ _ _ _ _ _ _ _ _ ih => exact ih
  | case12 => exact .ok rfl _

lemma isOther_declRest (s : List Glyph) : IsOther (declRest encoding s) := by
  fun_cases declRest encoding s with
  | case1 => exact .bind fun _ => .ok rfl _
  | _ => first | exact .error _ | exact .ok rfl _

lemma isOther_percentRest (s : List Glyph) : IsOther (percentRest encoding s) := by
  rw [percentRest]
  split
  · exact .ok rfl _
  · refine .bind fun a => ?_
    dsimp only
    split
    · exact .ok rfl _
    · exact .error _

lemma isOther_poundRest (s : List Glyph) : IsOther (poundRest encoding s) := by
  refine .bind fun a => ?_
  obtain ⟨n, rest⟩ := a
  dsimp only
  repeat' split
  all_goals first | exact .error _ | exact .ok rfl _

lemma isOther_literalRest (quote : Char) (s : List Glyph) : IsOther (literalRest quote s) := by
  refine .bind fun a => ?_
  obtain ⟨n, rest⟩ := a
  dsimp only
  repeat' split
  all_goals first | exact .error _ | exact .ok rfl _

lemma isOther_bracketRest (s : List Glyph) : IsOther (bracketRest s) := by
  unfold bracketRest
  split
  all_goals first | exact .error _ | exact .ok rfl _

lemma isOther_parenRest (s : List Glyph) : IsOther (parenRest s) := by
  unfold parenRest
  repeat' split
  all_goals first | exact .error _ | exact .ok rfl _

/-- A declaration starts with an angle bracket. -/
lemma isOther_token {c : Char} (hc : c ≠ '<') (s : List Glyph) :
    IsOther (token encoding (.char c :: s)) := by
  have hangle : ¬(c == '<') = true := by simpa using hc
  rw [token, if_neg hangle]
  refine .ite (.ok rfl _) ?_ -- spaces
  refine .ite (isOther_literalRest _ _) ?_
  refine .ite (isOther_percentRest _) ?_
  refine .ite (.ok rfl _) ?_ -- `,`
  refine .ite (.ok rfl _) ?_ -- `[`
  refine .ite (isOther_bracketRest _) ?_
  refine .ite (.ok rfl _) ?_ -- `(`
  refine .ite (isOther_parenRest _) ?_
  refine .ite (.ok rfl _) ?_ -- `|`
  refine .ite (.ok rfl _) ?_ -- `>`
  refine .ite (isOther_poundRest _) ?_
  exact .ite (isOther_nameRest _ _ _) (.ite (isOther_nameRest _ _ _) (.error _))

lemma exists_of_angleRest {s rest : List Glyph}
    (h : angleRest encoding s = .ok (.declaration, rest)) :
    ∃ inner, s = .char '?' :: inner ∧ instruction encoding inner = .ok (true, rest) := by
  unfold angleRest at h
  split at h
  · cases isOther_declRest _ _ _ h
  · next inner =>
    refine ⟨inner, rfl, ?_⟩
    cases hi : instruction encoding inner with
    | error _ => rw [hi] at h; cases h
    | ok found =>
      obtain ⟨_ | _, rest'⟩ := found <;> rw [hi] at h <;> cases h
      rfl
  · split at h <;> cases h
  all_goals cases h

lemma exists_of_token {s rest : List Glyph} (h : token encoding s = .ok (.declaration, rest)) :
    ∃ inner, s = .char '<' :: .char '?' :: inner ∧
      instruction encoding inner = .ok (true, rest) := by
  cases s with
  | nil => cases h
  | cons g s =>
    cases g with
    | illegal | broken | cut | half => cases h
    | char c =>
      by_cases hc : c = '<'
      · subst hc
        obtain ⟨inner, rfl, hi⟩ := exists_of_angleRest (s := s) h
        exact ⟨inner, rfl, hi⟩
      · cases isOther_token hc s _ _ h

lemma exists_of_token_elementStart {s rest : List Glyph}
    (h : token encoding s = .ok (.elementStart, rest)) :
    ∃ inner, s = .char '<' :: inner ∧ (∀ tail, inner ≠ .char '!' :: tail) ∧
      (∀ tail, inner ≠ .char '?' :: tail) ∧ ∀ tail, inner ≠ .char '/' :: tail := by
  obtain _ | ⟨_ | _ | _ | _ | _, s⟩ := s
  any_goals cases h
  next c =>
  by_cases hc : c = '<'
  · subst hc
    change angleRest encoding s = _ at h
    refine ⟨s, rfl, ?_, ?_, ?_⟩
    · rintro tail rfl
      cases isOther_declRest _ _ _ h
    · rintro tail rfl
      obtain ⟨⟨_ | _, _⟩, -, h⟩ := exists_of_bind_ok h <;> cases h
    · rintro tail rfl
      cases encoding <;> cases h
  · cases isOther_token hc s _ _ h

lemma token_of_instruction {inner rest : List Glyph}
    (h : instruction encoding inner = .ok (true, rest)) :
    token encoding (.char '<' :: .char '?' :: inner) = .ok (.declaration, rest) := by
  show (instruction encoding inner >>= fun a => _) = _
  rw [h]
  rfl

end Prolog

/-! ### Declarations -/

/-- The characters of a declaration: they are one in front of anything, in every encoding. -/
structure IsDeclaration (head : List Char) : Prop where
  opens : ∃ body, 2 ≤ body.length ∧ head = '<' :: '?' :: 'x' :: 'm' :: 'l' :: body
  token_append (encoding : Encoding) (rest : List Glyph) :
    Prolog.token encoding (head.map Glyph.char ++ rest) = .ok (.declaration, rest)

/-- The declaration without its opening and its end. -/
def innerOf (head : List Char) : List Char :=
  (head.drop 5).take (head.length - 7)

lemma exists_isDeclaration {s rest : List Glyph}
    (h : Prolog.token encoding s = .ok (.declaration, rest)) :
    ∃ head, IsDeclaration head ∧ s = head.map Glyph.char ++ rest := by
  obtain ⟨inner, rfl, hi⟩ := Prolog.exists_of_token h
  obtain ⟨body, hlength, rfl, hbody⟩ := exists_of_instruction hi
  exact ⟨'<' :: '?' :: 'x' :: 'm' :: 'l' :: body,
    ⟨⟨body, hlength, rfl⟩,
      fun encoding rest => Prolog.token_of_instruction (hbody encoding rest)⟩, rfl⟩

lemma charsOf_map_char (s : List Char) : charsOf (s.map Glyph.char) = s := by
  induction s with
  | nil => rfl
  | cons c s ih => exact congrArg (c :: ·) ih

lemma length_sub_length (head : List Char) (rest : List Glyph) :
    (head.map Glyph.char ++ rest).length - rest.length = head.length := by
  simp

lemma IsDeclaration.charsOf_inner {head : List Char} (h : IsDeclaration head) (rest : List Glyph) :
    charsOf (((head.map Glyph.char ++ rest).drop 5).take (head.length - 7)) = innerOf head := by
  obtain ⟨body, hlength, rfl⟩ := h.opens
  rw [List.drop_append_of_le_length (by simp), List.take_append_of_le_length (by simp),
    ← List.map_drop, ← List.map_take, charsOf_map_char]
  rfl

end PlayerPage.Xml
