import PlayerPage.Proofs.Steps
import PlayerPage.Xml.Document

/-!
The letters of an encoding, and the tokens that are read with more of them.

* `Encoding.startsName_of_ascii`, `Encoding.continuesName_of_ascii`: in ASCII all encodings have the
  same letters.
* `Encoding.IsWithin`: the letters of an encoding are letters of another one.
* `name_eq`: a name is the same in both, if what follows it is no letter in either.
* `reference_carriesOver`, `instruction_carriesOver`, `startTag_carriesOver`,
  `endTag_carriesOver`: a token sees to that, and is the same in both.
-/

namespace PlayerPage.Xml

/-! ### Letters -/

lemma ascii_of_isSpace {c : Char} (h : isSpace c = true) :
    c.toNat < 0x80 ∧ isNameChar c = false := by
  simp only [isSpace, Bool.or_eq_true, beq_iff_eq] at h
  rcases h with ((rfl | rfl) | rfl) | rfl <;> exact ⟨by decide, rfl⟩

lemma ascii_of_mark {c : Char} {marks : List Char}
    (hm : (marks.all fun d => decide (d.toNat < 0x80 ∧ isNameChar d = false)) = true)
    (h : (isSpace c || marks.contains c) = true) : c.toNat < 0x80 ∧ isNameChar c = false := by
  rw [Bool.or_eq_true, List.contains_iff_mem] at h
  exact h.elim ascii_of_isSpace fun hc => of_decide_eq_true (List.all_eq_true.mp hm c hc)

namespace Encoding

variable (encoding : Encoding)

lemma isExtraLetter_of_ascii {c : Char} (h : c.toNat < 0x80) :
    encoding.isExtraLetter c = false := by
  have hne : (c == 'ª' || c == 'µ' || c == 'º') = false := by
    by_contra hx
    simp only [Bool.not_eq_false, Bool.or_eq_true, beq_iff_eq] at hx
    rcases hx with (rfl | rfl) | rfl <;> exact absurd h (by decide)
  rw [isExtraLetter, hne, Bool.and_false]

lemma startsName_of_ascii {c : Char} (h : c.toNat < 0x80) :
    encoding.startsName c = isNameStart c := by
  rw [startsName, encoding.isExtraLetter_of_ascii h, Bool.or_false]

lemma continuesName_of_ascii {c : Char} (h : c.toNat < 0x80) :
    encoding.continuesName c = isNameChar c := by
  rw [continuesName, encoding.isExtraLetter_of_ascii h, Bool.or_false]

lemma continuesName_of_isSpace {c : Char} (h : isSpace c = true) :
    encoding.continuesName c = false := by
  obtain ⟨hc, hn⟩ := ascii_of_isSpace h
  rw [encoding.continuesName_of_ascii hc, hn]

/-- No name goes on with what stands at the front of a text. -/
def EndsName (rest : List Glyph) : Prop :=
  ∀ c tail, rest = .char c :: tail → encoding.continuesName c = false

variable {encoding} {c : Char} {rest : List Glyph}

lemma EndsName.of_ascii (hc : c.toNat < 0x80) (hn : isNameChar c = false) :
    encoding.EndsName (.char c :: rest) := by
  rintro _ _ ⟨⟩
  rw [encoding.continuesName_of_ascii hc, hn]

lemma EndsName.of_startsWithSpace (h : startsWithSpace rest = true) : encoding.EndsName rest := by
  rintro c tail rfl
  exact encoding.continuesName_of_isSpace h

lemma EndsName.of_isTagEnd (h : isTagEnd rest = true) : encoding.EndsName rest := by
  rintro c tail rfl
  simp only [isTagEnd, Bool.or_eq_true, beq_iff_eq] at h
  rcases h with rfl | rfl <;> exact encoding.continuesName_of_ascii (by decide)

/-- The letters of an encoding are letters of another one. -/
def IsWithin (a b : Encoding) : Prop :=
  a.hasLatinLetters = true → b.hasLatinLetters = true

lemma utf8_isWithin (b : Encoding) : Encoding.utf8.IsWithin b :=
  nofun

variable {a b : Encoding}

lemma IsWithin.isExtraLetter (h : a.IsWithin b) (hc : a.isExtraLetter c = true) :
    b.isExtraLetter c = true := by
  rw [Encoding.isExtraLetter, Bool.and_eq_true] at hc ⊢
  exact ⟨h hc.1, hc.2⟩

lemma IsWithin.startsName (h : a.IsWithin b) (hc : a.startsName c = true) :
    b.startsName c = true := by
  rw [Encoding.startsName, Bool.or_eq_true] at hc ⊢
  exact hc.imp_right h.isExtraLetter

lemma IsWithin.continuesName (h : a.IsWithin b) (hc : a.continuesName c = true) :
    b.continuesName c = true := by
  rw [Encoding.continuesName, Bool.or_eq_true] at hc ⊢
  exact hc.imp_right h.isExtraLetter

end Encoding

/-! ### Names -/

lemma eq_of_spanChars (p : Char → Bool) (s : List Glyph) :
    s = ((spanChars p s).1.map Glyph.char) ++ (spanChars p s).2 := by
  fun_induction spanChars p s with
  | case1 c rest hc cs after hspan ih =>
    rw [hspan] at ih
    exact congrArg (Glyph.char c :: ·) ih
  | case2 | case3 => rfl

lemma of_mem_spanChars {p : Char → Bool} {s : List Glyph} :
    ∀ c ∈ (spanChars p s).1, p c = true := by
  fun_induction spanChars p s with
  | case1 c rest hc cs after hspan ih =>
    rw [hspan] at ih
    exact List.forall_mem_cons.mpr ⟨hc, ih⟩
  | case2 | case3 => simp

lemma spanChars_append {p : Char → Bool} {cs : List Char} {rest : List Glyph}
    (hc : ∀ c ∈ cs, p c = true) (hr : ∀ c tail, rest = .char c :: tail → p c = false) :
    spanChars p (cs.map Glyph.char ++ rest) = (cs, rest) := by
  induction cs with
  | nil =>
    rw [List.map_nil, List.nil_append]
    unfold spanChars
    split
    · next c tail =>
      rw [hr c tail rfl]
      rfl
    · rfl
  | cons c cs ih =>
    rw [List.forall_mem_cons] at hc
    rw [List.map_cons, List.cons_append, spanChars, if_pos hc.1, ih hc.2]

/-- A span of characters is the same for a larger class, if none of that class follows it. -/
lemma spanChars_eq {p q : Char → Bool} {s rest : List Glyph} {cs : List Char}
    (h : spanChars p s = (cs, rest)) (hq : ∀ c ∈ cs, p c = true → q c = true)
    (hr : ∀ c tail, rest = .char c :: tail → q c = false) : spanChars q s = (cs, rest) := by
  have hs := eq_of_spanChars p s
  have hp := of_mem_spanChars (p := p) (s := s)
  rw [h] at hs hp
  rw [hs, spanChars_append (fun c hc => hq c hc (hp c hc)) hr]

/-- What follows a span of characters does not start with one of them. -/
lemma front_of_spanChars {p : Char → Bool} {s tail : List Glyph} {c : Char}
    (h : (spanChars p s).2 = .char c :: tail) : p c = false := by
  fun_induction spanChars p s with
  | case1 d tail hd cs rest hspan ih =>
    rw [hspan] at ih
    exact ih h
  | case2 d tail hd =>
    cases h
    simpa using hd
  | case3 s hs => exact absurd h (hs c tail)

variable {a b : Encoding} {s rest : List Glyph} {n : List Char}

/-- A name is the same with more letters, if none of them follows it. -/
lemma name_eq (h : a.IsWithin b) (hn : name a s = .ok (n, rest)) (hr : b.EndsName rest) :
    name b s = .ok (n, rest) := by
  unfold name at hn
  split at hn
  · next c tail =>
    split at hn
    · next hc =>
      cases hn
      rw [name, if_pos (h.startsName hc), spanChars_eq rfl (fun _ _ => h.continuesName) hr]
    · cases hn
  · cases hn

/-- A name starts with a letter. -/
lemma exists_of_name {r : List Char × List Glyph} (hn : name a s = .ok r) :
    ∃ c tail, s = .char c :: tail ∧ a.startsName c = true := by
  unfold name at hn
  split at hn
  · next c tail =>
    split at hn
    · next hc => exact ⟨c, tail, rfl, hc⟩
    · cases hn
  · cases hn

/-- A name ends where no letter follows. -/
lemma endsName_of_name (hn : name a s = .ok (n, rest)) : a.EndsName rest := by
  unfold name at hn
  split at hn
  · split at hn
    · cases hn
      rintro c tail hr
      exact front_of_spanChars hr
    · cases hn
  · cases hn

lemma qualifiedName_eq (h : a.IsWithin b) (hn : qualifiedName a s = .ok (n, rest))
    (hr : b.EndsName rest) : qualifiedName b s = .ok (n, rest) := by
  obtain ⟨⟨first, after⟩, hfirst, hn⟩ := exists_of_bind_ok hn
  refine bind_eq_ok_iff.mpr ⟨(first, after), ?_⟩
  dsimp only at hn ⊢
  split at hn
  · next tail =>
    obtain ⟨⟨second, rest'⟩, hsecond, hn⟩ := exists_of_bind_ok hn
    cases hn
    refine ⟨name_eq h hfirst (.of_ascii (by decide) rfl), ?_⟩
    exact bind_eq_ok_iff.mpr ⟨_, name_eq h hsecond hr, rfl⟩
  · cases hn
    exact ⟨name_eq h hfirst hr, rfl⟩

/-! ### References and instructions -/

lemma reference_carriesOver (h : a.IsWithin b) (s : List Glyph) :
    CarriesOver (reference a s) (reference b s) := by
  unfold reference
  split
  · exact .refl _
  · exact .refl _
  · refine .chain fun found r hn hr => ?_
    obtain ⟨n, after⟩ := found
    dsimp only at hr ⊢
    split at hr
    · exact ⟨name_eq h hn (.of_ascii (by decide) rfl), hr⟩
    · cases hr

lemma instruction_carriesOver (h : a.IsWithin b) (s : List Glyph) :
    CarriesOver (instruction a s) (instruction b s) := by
  refine .chain fun found r hn hr => ⟨name_eq h hn ?_, hr⟩
  obtain ⟨target, after⟩ := found
  rintro c tail rfl
  by_contra hc
  have hspace : isSpace c = false := by
    by_contra hs
    exact hc (b.continuesName_of_isSpace (by simpa using hs))
  have hquestion : c ≠ '?' := by
    rintro rfl
    exact hc (b.continuesName_of_ascii (by decide))
  simp [startsWithSpace, hspace, hquestion] at hr

/-! ### Values of attributes -/

lemma pieces_eq (h : a.IsWithin b) (inEntity : Bool) (quote : Option Char) (steps : Nat)
    {s rest : List Glyph} {ps : List Piece}
    (hp : pieces a inEntity quote steps s = (ps, .ok rest)) :
    pieces b inEntity quote steps s = (ps, .ok rest) := by
  induction steps generalizing s ps with
  | zero => cases hp
  | succ steps ih =>
    have hmore {tail : List Glyph} {p : Piece}
        (ht : (pieces a inEntity quote steps tail).map (p :: ·) id = (ps, .ok rest)) :
        (pieces b inEntity quote steps tail).map (p :: ·) id = (ps, .ok rest) := by
      rcases hq : pieces a inEntity quote steps tail with ⟨more, outcome⟩
      rw [hq] at ht
      obtain ⟨rfl, rfl⟩ := Prod.mk.inj ht
      rw [ih hq]
      rfl
    unfold pieces at hp ⊢
    split at hp
    · next c tail =>
      dsimp only at hp ⊢
      by_cases hquote : (quote == some c) = true
      · rwa [if_pos hquote] at hp ⊢
      rw [if_neg hquote] at hp ⊢
      by_cases hand : (c == '&') = true
      · rw [if_pos hand] at hp ⊢
        cases hr : reference a tail with
        | error _ => rw [hr] at hp; cases hp
        | ok found =>
          rw [hr] at hp
          rw [reference_carriesOver h tail found hr]
          exact hmore hp
      rw [if_neg hand] at hp ⊢
      by_cases hangle : (c == '<') = true
      · rw [if_pos hangle] at hp
        cases hp
      rw [if_neg hangle] at hp ⊢
      by_cases hspace : isSpace c = true
      · rw [if_pos hspace] at hp ⊢
        exact hmore hp
      · rw [if_neg hspace] at hp ⊢
        exact hmore hp
    · exact hp
    · cases hp

lemma quotedPieces_carriesOver (h : a.IsWithin b) (inEntity : Bool) (quote : Char)
    (s : List Glyph) :
    CarriesOver (quotedPieces a inEntity quote s) (quotedPieces b inEntity quote s) := by
  intro r hr
  rw [quotedPieces] at hr ⊢
  rcases hp : pieces a inEntity (some quote) (s.length + 1) s with ⟨ps, outcome⟩
  rw [hp] at hr
  cases outcome with
  | error _ => cases hr
  | ok rest =>
    rw [pieces_eq h inEntity (some quote) (s.length + 1) hp]
    exact hr

lemma attributeValue_carriesOver (h : a.IsWithin b) (inEntity : Bool) (s : List Glyph) :
    CarriesOver (attributeValue a inEntity s) (attributeValue b inEntity s) := by
  unfold attributeValue
  repeat' split
  all_goals first | exact quotedPieces_carriesOver h _ _ _ | exact .refl _

/-! ### Tags -/

/-- What stands between the name of an attribute and its value is no letter. -/
lemma endsName_of_attributeValue {inEntity : Bool} {r : List Piece × List Glyph}
    (hv : attributeValue a inEntity s = .ok r) : b.EndsName s := by
  rw [attributeValue] at hv
  split at hv
  · cases hv
  · next hfront =>
    rintro c tail rfl
    simp only [Bool.and_eq_true, Bool.not_eq_true', not_and] at hfront
    cases hs : startsWithSpace (.char c :: tail) with
    | true => exact b.continuesName_of_isSpace hs
    | false =>
      have hc : c = '=' := by simpa using hfront hs
      rw [hc]
      exact b.continuesName_of_ascii (by decide)

lemma attributes_carriesOver (h : a.IsWithin b) (inEntity : Bool) (steps : Nat) (s : List Glyph) :
    CarriesOver (attributes a inEntity steps s) (attributes b inEntity steps s) := by
  induction steps generalizing s with
  | zero => exact .error _
  | succ steps ih =>
    rw [attributes, attributes]
    refine .chain fun found q hn hq => ?_
    obtain ⟨n, after⟩ := found
    dsimp only at hq ⊢
    obtain ⟨_, hv, -⟩ := exists_of_bind_ok hq
    refine ⟨qualifiedName_eq h hn (endsName_of_attributeValue hv), ?_⟩
    refine (attributeValue_carriesOver h inEntity after).bind (fun value _ => ?_) q hq
    obtain ⟨parts, after⟩ := value
    dsimp only
    repeat' split
    all_goals first | exact .refl _ | exact (ih _).bind_same

/-- A start tag starts with a name. -/
lemma exists_of_startTag {inEntity : Bool} {r : StartTag × List Glyph}
    (ht : startTag a inEntity s = .ok r) :
    ∃ c tail, s = .char c :: tail ∧ a.startsName c = true := by
  obtain ⟨_, hq, -⟩ := exists_of_bind_ok ht
  obtain ⟨_, hn, -⟩ := exists_of_bind_ok hq
  exact exists_of_name hn

lemma startTag_carriesOver (h : a.IsWithin b) (inEntity : Bool) (s : List Glyph) :
    CarriesOver (startTag a inEntity s) (startTag b inEntity s) := by
  rw [startTag, startTag]
  refine .chain fun found q hn hq => ?_
  obtain ⟨n, after⟩ := found
  dsimp only at hq ⊢
  split at hq
  · next hend =>
    rw [if_pos hend]
    exact ⟨qualifiedName_eq h hn (.of_isTagEnd hend), hq⟩
  next hend =>
  split at hq
  · next hspace =>
    rw [if_neg hend, if_pos hspace]
    refine ⟨qualifiedName_eq h hn (.of_startsWithSpace hspace), ?_⟩
    split at hq
    · next hend => rwa [if_pos hend]
    · next hend =>
      rw [if_neg hend]
      exact (attributes_carriesOver h inEntity _ _).bind_same q hq
  · cases hq

lemma endTag_carriesOver (h : a.IsWithin b) (s : List Glyph) :
    CarriesOver (endTag a s) (endTag b s) := by
  rw [endTag, endTag]
  refine .chain fun found q hn hq => ?_
  obtain ⟨first, after⟩ := found
  dsimp only at hq ⊢
  rcases hspan : spanChars (fun c => a.continuesName c || c == ':') after with ⟨more, rest⟩
  rw [hspan] at hq
  dsimp only at hq ⊢
  -- the tag is closed, so what follows its name is no letter and no colon
  have hfront : ∀ c tail, rest = .char c :: tail → (b.continuesName c || c == ':') = false := by
    rintro c tail rfl
    split at hq
    · next hclose =>
      cases hclose
      exact Bool.or_eq_false_iff.mpr ⟨b.continuesName_of_ascii (by decide), rfl⟩
    · split at hq
      · next hspace =>
        refine Bool.or_eq_false_iff.mpr ⟨b.continuesName_of_isSpace hspace, ?_⟩
        rw [beq_eq_false_iff_ne]
        rintro rfl
        cases hspace
      · cases hq
  have hmore : spanChars (fun c => b.continuesName c || c == ':') after = (more, rest) := by
    refine spanChars_eq hspan (fun c _ hc => ?_) hfront
    rw [Bool.or_eq_true] at hc ⊢
    exact hc.imp_left h.continuesName
  have hends : b.EndsName after := by
    rintro c tail rfl
    by_contra hc
    have hcolon : ¬ (c == ':') = true := by
      rw [beq_iff_eq]
      rintro rfl
      exact hc (b.continuesName_of_ascii (by decide))
    have ha : a.continuesName c = false := endsName_of_name hn c tail rfl
    rw [spanChars, ha, Bool.false_or, if_neg hcolon] at hspan
    obtain ⟨-, rfl⟩ := Prod.mk.inj hspan
    exact hc (Bool.or_eq_false_iff.mp (hfront c tail rfl)).1
  refine ⟨name_eq h hn hends, ?_⟩
  rw [hmore]
  exact hq

end PlayerPage.Xml
