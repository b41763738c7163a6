import PlayerPage.Proofs.Xml.Declaration

/-!
Documents that are read with more letters.

* `Prolog.TokenCarriesOver`, `Prolog.token_carriesOver`: the tokens of a prolog are the same with
  more letters, but for the keywords of declarations and the starts of elements, where encodings
  differ in what they tell at once.
* `Prolog.Token.IsStray`, `Prolog.not_isStray_of_advance`: a keyword that only some encodings tell
  declares nothing; `startsElement_of_content`: an element starts with a letter. So
  `Prolog.readFrom_eq` and `content_carriesOver` need no care for either.
* `events_carriesOver`: the events of a document are the same with more letters.
-/

namespace PlayerPage.Xml

variable {a b : Encoding}

/-! ### Letters that only one encoding has -/

namespace Encoding

variable {c : Char}

lemma isNameChar_of_isExtraLetter (h : b.isExtraLetter c = true) : isNameChar c = false := by
  simp only [isExtraLetter, Bool.and_eq_true, Bool.or_eq_true, beq_iff_eq] at h
  obtain ⟨-, (rfl | rfl) | rfl⟩ := h <;> decide +kernel

lemma startsName_imp_continuesName (h : b.startsName c = true) : b.continuesName c = true := by
  rw [startsName, Bool.or_eq_true] at h
  rw [continuesName, Bool.or_eq_true]
  exact h.imp_left fun hc => by simp [isNameChar, hc]

/-- A letter that only one of two encodings has cannot stand in a name in the other one. -/
lemma not_continuesName_of_startsName (ha : ¬ a.startsName c = true)
    (hb : b.startsName c = true) : ¬ (a.continuesName c || c == ':') = true := by
  rw [startsName, Bool.or_eq_true, not_or] at ha
  rw [startsName, Bool.or_eq_true] at hb
  have hextra := hb.resolve_left ha.1
  have hcolon : c ≠ ':' := by
    rintro rfl
    rw [b.isExtraLetter_of_ascii (by decide)] at hextra
    cases hextra
  simp [continuesName, isNameChar_of_isExtraLetter hextra, ha.2, hcolon]

/-- A character of ASCII is a letter in both of two encodings or in none. -/
lemma continuesName_eq_false (ha : ¬ a.continuesName c = true) (hc : c.toNat < 0x80) :
    b.continuesName c = false := by
  rw [a.continuesName_of_ascii hc] at ha
  rw [b.continuesName_of_ascii hc]
  simpa using ha

end Encoding

namespace Prolog

open Encoding

/-! ### Tokens of the prolog -/

variable {s rest : List Glyph} {t : Token}

lemma nameRest_of_letter {c : Char} (ha : ¬ a.continuesName c = true)
    (hb : b.continuesName c = true) (kind : NameKind) (read : List Char) (rest : List Glyph) :
    nameRest a kind read (.char c :: rest) = .error (.invalid (rest.length + 1)) := by
  have hne (d : Char) (hd : d.toNat < 0x80) : c ≠ d := by
    rintro rfl
    rw [continuesName_eq_false ha hd] at hb
    cases hb
  have hspace : isSpace c = false := by
    simp [isSpace, hne]
  rw [nameRest.eq_def]
  simp [ha, hspace, hne]

lemma nameRest_of_continuesName {c : Char} (hc : b.continuesName c = true) (kind : NameKind)
    (read : List Char) (rest : List Glyph) :
    nameRest b kind read (.char c :: rest) = nameRest b kind (c :: read) rest := by
  rw [nameRest.eq_def]
  exact if_pos hc

lemma nameRest_carriesOver (h : a.IsWithin b) (kind : NameKind) (read : List Char)
    (s : List Glyph) : CarriesOver (nameRest a kind read s) (nameRest b kind read s) := by
  have hnot {c : Char} (ha : ¬ a.continuesName c = true) (hc : c.toNat < 0x80) :
      ¬ b.continuesName c = true := by
    simp [continuesName_eq_false ha hc]
  fun_induction nameRest a kind read s with
  | case1 | case2 => exact .refl _
  | case4 | case5 | case6 | case11 | case13 | case14 => exact .error _
  | case3 kind read c rest hc ih =>
    rw [nameRest_of_continuesName (h.continuesName hc)]
    exact ih
  | case7 read c hc hcolon d more hd ih =>
    obtain rfl : c = ':' := beq_iff_eq.mp hcolon
    rw [nameRest.eq_def b]
    dsimp only
    rw [if_neg (hnot hc (by decide)), if_pos hcolon, if_pos (h.continuesName hd)]
    exact ih
  | case8 read c hc hcolon d more hd ih =>
    obtain rfl : c = ':' := beq_iff_eq.mp hcolon
    -- a letter of `b` only is one that `a` can do nothing with
    by_cases hb : b.continuesName d = true
    · rw [nameRest_of_letter hd hb]
      exact .error _
    rw [nameRest.eq_def b]
    dsimp only
    rw [if_neg (hnot hc (by decide)), if_pos hcolon, if_neg hb]
    exact ih
  | case9 kind read c hc hcolon rest h₁ h₂ h₃ h₄ ih =>
    obtain rfl : c = ':' := beq_iff_eq.mp hcolon
    rw [nameRest.eq_def b]
    dsimp only
    rw [if_neg (hnot hc (by decide)), if_pos hcolon]
    split
    · exact (h₁ rfl rfl).elim
    · exact (h₂ _ rfl rfl).elim
    · exact (h₃ _ rfl rfl).elim
    · exact (h₄ _ _ rfl rfl).elim
    · exact ih
  | case10 kind read c rest hc hcolon hmark =>
    have hascii : c.toNat < 0x80 := (ascii_of_mark rfl hmark).1
    rw [nameRest.eq_def b]
    dsimp only
    rw [if_neg (hnot hc hascii), if_neg hcolon, if_pos hmark]
    exact .refl _
  | case12 kind read c rest hc hcolon hmark hrepeat hkind =>
    have hascii : c.toNat < 0x80 := by
      simp only [Bool.or_eq_true, beq_iff_eq] at hrepeat
      rcases hrepeat with (rfl | rfl) | rfl <;> decide
    rw [nameRest.eq_def b]
    dsimp only
    rw [if_neg (hnot hc hascii), if_neg hcolon, if_neg hmark, if_pos hrepeat, if_neg hkind]
    exact .refl _

/-- A token that opens a declaration whose keyword has letters beyond ASCII. No declaration
does. -/
def Token.IsStray (t : Token) : Prop :=
  ∃ keyword, t = .declOpen keyword ∧ ∃ c ∈ keyword, ¬ c.toNat < 0x80

lemma isKeywordLetter_of_ascii (encoding : Encoding) {c : Char} (h : c.toNat < 0x80) :
    encoding.isKeywordLetter c = isNameStart c := by
  have htells : encoding.tellsAtOnce c = true := by
    cases encoding with
    | utf8 => exact decide_eq_true h
    | utf16 => exact decide_eq_true (Nat.lt_trans h (by decide))
    | _ => rfl
  rw [isKeywordLetter, htells, Bool.and_true, encoding.startsName_of_ascii h]

lemma isKeywordLetter_of_isSpace (encoding : Encoding) {c : Char} (h : isSpace c = true) :
    encoding.isKeywordLetter c = false := by
  have hnot : encoding.startsName c = false := by
    by_contra hs
    have hc := startsName_imp_continuesName (eq_true_of_ne_false hs)
    rw [encoding.continuesName_of_isSpace h] at hc
    cases hc
  rw [isKeywordLetter, hnot, Bool.false_and]

/-- What the one encoding reads as a token, the other one does, too, unless it is a stray one; if it
is the start of an element, on a condition. -/
def TokenCarriesOver (condition : Prop) (x y : Scanned) : Prop :=
  ∀ t rest, x = .ok (t, rest) → ¬ t.IsStray → (t = .elementStart → condition) → y = .ok (t, rest)

namespace TokenCarriesOver

variable {condition : Prop} {x y : Scanned}

lemma of_carriesOver (h : CarriesOver x y) : TokenCarriesOver condition x y :=
  fun _ _ hx _ _ => h _ hx

lemma refl (x : Scanned) : TokenCarriesOver condition x x :=
  .of_carriesOver (.refl x)

lemma ite {p : Prop} [Decidable p] {x' y' : Scanned} (hx : TokenCarriesOver condition x y)
    (hx' : TokenCarriesOver condition x' y') :
    TokenCarriesOver condition (if p then x else x') (if p then y else y') := by
  split
  · exact hx
  · exact hx'

end TokenCarriesOver

lemma declRest_carriesOver (a b : Encoding) (condition : Prop) (s : List Glyph) :
    TokenCarriesOver condition (declRest a s) (declRest b s) := by
  unfold declRest
  split
  · exact .refl _
  · exact .refl _
  next =>
  rcases hspan : spanChars a.isKeywordLetter s with ⟨keyword, after⟩
  rintro t rest ht hstray -
  -- the keyword is the whole name, and something that is no letter follows it
  have hread : t = .declOpen keyword ∧
      ∀ c tail, after = .char c :: tail → isSpace c = true ∨ c = '%' := by
    obtain _ | ⟨d, keyword⟩ := keyword
    · cases ht
    dsimp only at ht
    split at ht
    · cases ht
    · cases ht
    · split at ht <;> cases ht
      refine ⟨rfl, ?_⟩
      rintro c tail ⟨⟩
      exact .inr rfl
    · split at ht <;> cases ht
      next hfront =>
      refine ⟨rfl, ?_⟩
      rintro c tail rfl
      simpa [startsWithSpace] using hfront
  obtain ⟨rfl, hfront⟩ := hread
  have hkeyword : spanChars b.isKeywordLetter s = (keyword, after) := by
    refine spanChars_eq hspan (fun c hc ha => ?_) fun c tail hafter => ?_
    · have hascii : c.toNat < 0x80 := by
        by_contra hn
        exact hstray ⟨keyword, rfl, c, hc, hn⟩
      rwa [isKeywordLetter_of_ascii b hascii, ← isKeywordLetter_of_ascii a hascii]
    · rcases hfront c tail hafter with hs | rfl
      · exact isKeywordLetter_of_isSpace b hs
      · exact isKeywordLetter_of_ascii b (by decide)
  rw [hkeyword]
  exact ht

lemma percentRest_carriesOver (h : a.IsWithin b) (s : List Glyph) :
    CarriesOver (percentRest a s) (percentRest b s) := by
  unfold percentRest
  split
  · exact .refl _
  · refine .chain fun found q hn hq => ?_
    obtain ⟨n, after⟩ := found
    dsimp only at hq ⊢
    split at hq
    · exact ⟨name_eq h hn (.of_ascii (by decide) rfl), hq⟩
    · cases hq

lemma poundRest_carriesOver (h : a.IsWithin b) (s : List Glyph) :
    CarriesOver (poundRest a s) (poundRest b s) := by
  refine .chain fun found q hn hq => ⟨name_eq h hn ?_, hq⟩
  obtain ⟨n, after⟩ := found
  rintro c tail rfl
  dsimp only at hq
  split at hq
  · next hmark =>
    obtain ⟨hc, hname⟩ := ascii_of_mark rfl hmark
    rw [b.continuesName_of_ascii hc, hname]
  · cases hq

/-- An element starts here whose name starts with a letter. -/
def StartsElement (encoding : Encoding) (s : List Glyph) : Prop :=
  ∃ c tail, s = .char '<' :: .char c :: tail ∧ encoding.startsName c = true

lemma angleRest_carriesOver (h : a.IsWithin b) (s : List Glyph) :
    TokenCarriesOver (StartsElement a (.char '<' :: s)) (angleRest a s) (angleRest b s) := by
  unfold angleRest
  split
  · exact declRest_carriesOver _ _ _ _
  · exact .of_carriesOver (instruction_carriesOver h _).bind_same
  · next c tail _ _ =>
    rintro t rest ht - hstarts
    split at ht <;> cases ht
    obtain ⟨d, tail', hs, hd⟩ := hstarts rfl
    cases hs
    rw [if_pos]
    rw [opensElement, h.startsName hd, Bool.true_or]
  all_goals exact .refl _

lemma token_carriesOver (h : a.IsWithin b) (s : List Glyph) :
    TokenCarriesOver (StartsElement a s) (token a s) (token b s) := by
  unfold token
  split
  · next c tail =>
    refine .ite (.refl _) ?_ -- spaces
    by_cases hc : (c == '<') = true
    · obtain rfl : c = '<' := beq_iff_eq.mp hc
      rw [if_pos hc, if_pos hc]
      exact angleRest_carriesOver h tail
    rw [if_neg hc, if_neg hc]
    refine .ite (.refl _) ?_ -- literals
    refine .ite (.of_carriesOver (percentRest_carriesOver h tail)) ?_
    refine .ite (.refl _) ?_ -- `,`
    refine .ite (.refl _) ?_ -- `[`
    refine .ite (.refl _) ?_ -- `]`
    refine .ite (.refl _) ?_ -- `(`
    refine .ite (.refl _) ?_ -- `)`
    refine .ite (.refl _) ?_ -- `|`
    refine .ite (.refl _) ?_ -- `>`
    refine .ite (.of_carriesOver (poundRest_carriesOver h tail)) ?_
    refine .of_carriesOver ?_
    by_cases ha : a.startsName c = true
    · rw [if_pos ha, if_pos (h.startsName ha)]
      exact nameRest_carriesOver h _ _ _
    rw [if_neg ha]
    by_cases hb : b.startsName c = true
    · rw [if_neg (not_continuesName_of_startsName ha hb)]
      exact .error _
    rw [if_neg hb]
    by_cases hother : (a.continuesName c || c == ':') = true
    · have hother' : (b.continuesName c || c == ':') = true := by
        rw [Bool.or_eq_true] at hother ⊢
        exact hother.imp_left h.continuesName
      rw [if_pos hother, if_pos hother']
      exact nameRest_carriesOver h _ _ _
    · rw [if_neg hother]
      exact .error _
  · exact .refl _

/-! ### Declarations -/

lemma entityText_carriesOver (h : a.IsWithin b) (left steps : Nat) (s : List Glyph) :
    CarriesOver (entityText a left steps s) (entityText b left steps s) := by
  induction steps generalizing s with
  | zero => exact .refl _
  | succ steps ih =>
    unfold entityText
    split
    · exact .refl _
    · next rest =>
      cases hr : reference a rest with
      | error stop => cases stop <;> exact .error _
      | ok found =>
        rw [reference_carriesOver h rest found hr]
        obtain ⟨(_ | _) | _, after⟩ := found
        · exact .refl _
        · exact (ih _).bind_same
        · exact (ih _).bind_same
    · next rest =>
      intro r hr
      split at hr <;> cases hr
    · exact .refl _
    · exact (ih _).bind_same
    · exact (ih _).bind_same

lemma declareText_carriesOver (h : a.IsWithin b) (dtd : Dtd) (target : Target)
    (content : List Glyph) (rest : Nat) :
    CarriesOver (declareText a dtd target content rest)
      (declareText b dtd target content rest) := by
  unfold declareText
  split
  · exact (entityText_carriesOver h _ _ _).bind_same
  · exact .refl _

lemma declareDefault_carriesOver (h : a.IsWithin b) (dtd : Dtd) (element name : List Char)
    (isCdata : Bool) (content : List Glyph) (start rest : Nat) :
    CarriesOver (declareDefault a dtd element name isCdata content start rest)
      (declareDefault b dtd element name isCdata content start rest) := by
  unfold declareDefault
  split
  · rcases hp : pieces a false none (content.length + 1) content with ⟨parts, stop | after⟩
    · dsimp only
      cases dtd.value isCdata parts with
      | error flaw => exact .error _
      | ok value => cases stop <;> exact .error _
    · rw [pieces_eq h false none (content.length + 1) hp]
      exact .refl _
  · exact .refl _

lemma advance_carriesOver (h : a.IsWithin b) (state : State) (dtd : Dtd) (t : Token)
    (start rest : Nat) :
    CarriesOver (advance a state dtd t start rest) (advance b state dtd t start rest) := by
  unfold advance
  split
  all_goals first
    | exact .refl _
    | exact (declareText_carriesOver h _ _ _ _).bind_same
    | exact (declareDefault_carriesOver h _ _ _ _ _ _ _).bind_same

/-- The keywords of declarations. -/
def keywords : List (List Char) :=
  ["DOCTYPE".toList, "ENTITY".toList, "ATTLIST".toList, "ELEMENT".toList, "NOTATION".toList]

lemma mem_keywords_of_move? {state next : State} {keyword : List Char}
    (h : move? state (.declOpen keyword) = some next) : keyword ∈ keywords := by
  cases state <;>
    simp only [move?, advanceElement?, advanceList?, Option.or_none, reduceCtorEq] at h
  case beforeType =>
    split at h
    · next hk =>
      rw [beq_iff_eq.mp hk]
      exact List.mem_cons_self
    · cases h
  case subset =>
    obtain ⟨before, after, he, -⟩ := List.lookup_eq_some_iff.mp h
    have hmem : (keyword, next) ∈ before ++ (keyword, next) :: after := by simp
    rw [← he] at hmem
    exact List.mem_cons_of_mem _ (List.mem_map_of_mem (f := Prod.fst) hmem)

/-- No declaration is opened with a stray token. -/
lemma not_isStray_of_advance {encoding : Encoding} {state : State} {dtd : Dtd} {t : Token}
    {start rest : Nat} {r : Progress} (h : advance encoding state dtd t start rest = .ok r) :
    ¬ t.IsStray := by
  rintro ⟨keyword, rfl, c, hc, hn⟩
  have hascii : (keywords.all (·.all fun c => decide (c.toNat < 0x80))) = true := rfl
  cases hmove : move? state (.declOpen keyword) with
  | none =>
    have hfails : advance encoding state dtd (.declOpen keyword) start rest =
        .error (tokenFlaw (.declOpen keyword) start) := by
      cases state <;> simp only [advance, hmove]
    rw [hfails] at h
    cases h
  | some next =>
    have hkeyword := List.all_eq_true.mp hascii keyword (mem_keywords_of_move? hmove)
    exact hn (of_decide_eq_true (List.all_eq_true.mp hkeyword c hc))

lemma readFrom_eq (h : a.IsWithin b) {state : State} {dtd : Dtd} {steps : Nat} {s : List Glyph}
    {r : Dtd × List Glyph} (hr : readFrom a state dtd steps s = .ok r)
    (hs : StartsElement a r.2) : readFrom b state dtd steps s = .ok r := by
  induction steps generalizing state dtd s with
  | zero => cases hr
  | succ steps ih =>
    obtain _ | ⟨g, s⟩ := s
    · cases hr
    unfold readFrom at hr ⊢
    cases ht : token a (g :: s) with
    | error stop => rw [ht] at hr; cases hr
    | ok found =>
      obtain ⟨t, after⟩ := found
      rw [ht] at hr
      dsimp only at hr
      split at hr
      · cases hr
      · next hstart =>
        cases hstart
        split at hr
        · next hallows =>
          cases hr
          rw [token_carriesOver h _ _ _ ht (by rintro ⟨_, ⟨⟩, _⟩) fun _ => hs]
          exact if_pos hallows
        · cases hr
      · next t' after' hother hfound =>
        cases hfound
        -- the token is no stray one, as the state goes on with it
        cases ha : advance a state dtd t (g :: s).length after.length with
        | error _ => rw [ha] at hr; cases hr
        | ok progress =>
          rw [token_carriesOver h _ _ _ ht (not_isStray_of_advance ha) fun he => (hother he).elim]
          rw [ha] at hr
          dsimp only
          split
          · next hfound => cases hfound
          · next hfound =>
            cases hfound
            exact (hother rfl).elim
          · next hfound =>
            cases hfound
            rw [advance_carriesOver h _ _ _ _ _ _ ha]
            exact ih hr

/-- What follows a prolog is the start of an element. -/
lemma token_of_readFrom {encoding : Encoding} {state : State} {dtd : Dtd} {steps : Nat}
    {s : List Glyph} {r : Dtd × List Glyph} (hr : readFrom encoding state dtd steps s = .ok r) :
    ∃ rest, token encoding r.2 = .ok (.elementStart, rest) := by
  induction steps generalizing state dtd s with
  | zero => cases hr
  | succ steps ih =>
    obtain _ | ⟨g, s⟩ := s
    · cases hr
    unfold readFrom at hr
    split at hr
    · cases hr
    · next ht =>
      split at hr <;> cases hr
      exact ⟨_, ht⟩
    · obtain ⟨_, -, hr⟩ := exists_of_bind_ok hr
      exact ih hr

end Prolog

/-! ### Content -/

open Prolog (StartsElement)

lemma markup_carriesOver (h : a.IsWithin b) (dtd : Dtd) (base : Nat) (r : Reading)
    (s : List Glyph) : CarriesOver (markup a dtd base r s) (markup b dtd base r s) := by
  unfold markup
  dsimp only
  split
  · exact .refl _
  · exact .refl _
  · exact .refl _
  · exact (instruction_carriesOver h _).mapError.bind_same
  · exact (endTag_carriesOver h _).mapError.bind_same
  · exact (startTag_carriesOver h _ _).mapError.bind_same

lemma readParts_carriesOver (h : a.IsWithin b) (dtd : Dtd) (opened : List (List Char)) (base : Nat)
    (enter : (name : List Char) → List Glyph → Reading → Except Flaw Progress) (steps : Nat)
    (r : Reading) (s : List Glyph) :
    CarriesOver (readParts a dtd opened base enter steps r s)
      (readParts b dtd opened base enter steps r s) := by
  induction steps generalizing r s with
  | zero => exact .refl _
  | succ steps ih =>
    unfold readParts
    split
    · exact .refl _
    · refine (markup_carriesOver h _ _ _ _).bind fun found _ => ?_
      obtain ⟨r, rest⟩ := found
      dsimp only
      split
      · exact .refl _
      · exact ih _ _
    · next rest =>
      cases hr : reference a rest with
      | error stop => exact .error _
      | ok found =>
        rw [reference_carriesOver h rest found hr]
        obtain ⟨(_ | _) | _, after⟩ := found
        · exact .refl _
        · exact ih _ _
        · dsimp only
          split
          · exact ih _ _
          split
          · exact .refl _
          split
          · exact .refl _
          · exact ih _ _
    · split
      · exact ih _ _
      split
      · exact .refl _
      · exact ih _ _
    · split
      · exact .refl _
      split
      · exact .refl _
      · exact ih _ _
    · exact ih _ _
    · exact .refl _

lemma content_carriesOver (h : a.IsWithin b) (dtd : Dtd) (s : List Glyph) :
    CarriesOver (content a dtd s) (content b dtd s) :=
  (readParts_carriesOver h _ _ _ _ _ _ _).bind_same

/-- The first element has a name. -/
lemma startsElement_of_content {dtd : Dtd} {s rest : List Glyph} {r : List Event × List Glyph}
    (ht : Prolog.token a s = .ok (.elementStart, rest)) (hr : content a dtd s = .ok r) :
    StartsElement a s := by
  obtain ⟨inner, rfl, hdecl, hinstruction, hend⟩ := Prolog.exists_of_token_elementStart ht
  obtain ⟨_, hcontent, -⟩ := exists_of_bind_ok hr
  obtain ⟨_, hmarkup, -⟩ := exists_of_bind_ok
    (x := markup a dtd 0 Reading.empty (.char '<' :: inner)) hcontent
  unfold markup at hmarkup
  dsimp only [List.tail_cons] at hmarkup
  split at hmarkup
  · exact absurd rfl (hdecl _)
  · exact absurd rfl (hdecl _)
  · exact absurd rfl (hdecl _)
  · exact absurd rfl (hinstruction _)
  · exact absurd rfl (hend _)
  · obtain ⟨_, htag, -⟩ := exists_of_bind_ok hmarkup
    obtain ⟨c, tail, rfl, hc⟩ := exists_of_startTag (mapError_eq_ok_iff.mp htag)
    exact ⟨c, tail, rfl, hc⟩

/-! ### Documents -/

lemma epilog_carriesOver (h : a.IsWithin b) (steps : Nat) (s : List Glyph) :
    CarriesOver (epilog a steps s) (epilog b steps s) := by
  induction steps generalizing s with
  | zero => exact .refl _
  | succ steps ih =>
    obtain _ | ⟨g, s⟩ := s
    · exact .refl _
    intro r hr
    have hnext {t : Prolog.Token} {rest : List Glyph} (ht : Prolog.token a (g :: s) = .ok (t, rest))
        (hplain : t = .space ∨ t = .instruction ∨ t = .comment) :
        Prolog.token b (g :: s) = .ok (t, rest) := by
      refine Prolog.token_carriesOver h _ _ _ ht ?_ ?_
      · rintro ⟨_, rfl, _⟩
        simp at hplain
      · rintro rfl
        simp at hplain
    unfold epilog at hr ⊢
    split at hr
    · next ht =>
      rw [hnext ht (.inl rfl)]
      exact ih _ _ hr
    · next ht =>
      rw [hnext ht (.inr (.inl rfl))]
      exact ih _ _ hr
    · next ht =>
      rw [hnext ht (.inr (.inr rfl))]
      exact ih _ _ hr
    · cases hr
    · cases hr

/-- **Letters of a document**: what is a document with the letters of one encoding is one with more
letters, too, and its events are the same. -/
theorem events_carriesOver (h : a.IsWithin b) (standalone : Bool) (s : List Glyph) :
    CarriesOver (events a standalone s) (events b standalone s) := by
  refine .chain fun found q hread hq => ?_
  obtain ⟨dtd, rest⟩ := found
  obtain ⟨_, hcontent, -⟩ := exists_of_bind_ok hq
  obtain ⟨_, ht⟩ := Prolog.token_of_readFrom hread
  refine ⟨Prolog.readFrom_eq h hread (startsElement_of_content ht hcontent), ?_⟩
  exact (content_carriesOver h dtd rest).bind (fun _ _ => (epilog_carriesOver h _ _).bind_same) q hq

end PlayerPage.Xml
