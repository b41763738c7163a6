import PlayerPage.Proofs.Xml.Extension
import PlayerPage.Proofs.Xml.Glyphs

/-!
Documents that declare an encoding.

* `tree?`, `read_eq_ok_iff`: the tree of a document depends on the glyphs after its declaration.
* `Declares`, `exists_declares`: a document that declares an encoding, taken apart.
* `Declares.read_text_iff`, `Declares.read_bytes_iff`: in a text the declared encoding does not
  count, in bytes what follows the declaration is read in it.
* `isBytewise_of_ofName`: if that is another one, it has a byte for every glyph.
-/

namespace PlayerPage.Xml

/-! ### Trees -/

/-- The tree of what follows the declaration of a document in an encoding, if there is one. -/
def tree? (encoding : Encoding) (standalone : Bool) (s : List Glyph) : Option Element :=
  match events encoding standalone s with
  | .ok found => Element.ofEvents? found
  | .error _ => none

variable {bytes : List UInt8} {encoding current : Encoding} {mark : Nat} {tree : Element}

/-- With more letters a tree stays the same. -/
lemma tree?_of_isWithin (h : encoding.IsWithin current) {standalone : Bool} {s : List Glyph}
    (ht : tree? encoding standalone s = some tree) : tree? current standalone s = some tree := by
  rw [tree?] at ht ⊢
  split at ht
  · next found he =>
    rw [events_carriesOver h standalone s found he]
    exact ht
  · cases ht

lemma Opening.tree_eq_ok_iff {opening : Opening} : opening.tree = .ok tree ↔
    tree? opening.encoding opening.standalone opening.rest = some tree := by
  rw [Opening.tree, tree?]
  cases events opening.encoding opening.standalone opening.rest with
  | error _ => simp [bind, Except.bind, Except.mapError]
  | ok found =>
    simp only [bind, Except.bind, Except.mapError]
    cases Element.ofEvents? found <;> simp [pure, Except.pure]

lemma Source.opening_eq (source : Source)
    (hd : detect? source.toBytes = some (encoding, mark)) :
    source.opening = Opening.read source encoding mark := by
  simp only [Source.opening, hd]

lemma Source.exists_detect? {source : Source} {opening : Opening}
    (h : source.opening = .ok opening) :
    ∃ encoding mark, detect? source.toBytes = some (encoding, mark) := by
  rw [Source.opening] at h
  split at h
  · cases h
  · next encoding mark hd => exact ⟨encoding, mark, hd⟩

lemma read_eq_ok_iff (source : Source) (hd : detect? source.toBytes = some (encoding, mark)) :
    read source = .ok tree ↔ ∃ opening, Opening.read source encoding mark = .ok opening ∧
      tree? opening.encoding opening.standalone opening.rest = some tree := by
  rw [read, bind_eq_ok_iff, Source.opening_eq source hd]
  simp only [Opening.tree_eq_ok_iff]

/-! ### Declared encodings -/

/-- The glyphs of a document after its byte order mark, if it has one. -/
def startOf (encoding : Encoding) (mark : Nat) (bytes : List UInt8) : List Glyph :=
  if mark == 0 then encoding.glyphs bytes else (encoding.glyphs bytes).tail

/-- The bytes begin with a declaration that names an encoding. -/
structure Declares (bytes : List UInt8) (current : Encoding) (mark : Nat) (head : List Char)
    (rest : List Glyph) (declaration : Declaration) (name fromName : List Char) : Prop where
  detected : detect? bytes = some (current, mark)
  start_eq : startOf current mark bytes = head.map Glyph.char ++ rest
  isDeclaration : IsDeclaration head
  parsed : Declaration.parse (innerOf head) = .ok declaration
  named : declaration.encoding = some (name, fromName)

variable {head : List Char} {rest : List Glyph} {declaration : Declaration}
  {name fromName : List Char}

lemma exists_declares (h : declared? bytes = some (current, name)) :
    ∃ mark head rest declaration fromName,
      Declares bytes current mark head rest declaration name fromName := by
  obtain ⟨⟨encoding, mark⟩, hd, h⟩ := Option.bind_eq_some_iff.mp h
  dsimp only at h
  split at h
  · next rest ht =>
    obtain ⟨head, hhead, hstart⟩ := exists_isDeclaration ht
    rw [hstart, length_sub_length, hhead.charsOf_inner] at h
    split at h
    · next declaration hp =>
      obtain ⟨⟨name', fromName⟩, hn, hfound⟩ := Option.map_eq_some_iff.mp h
      cases hfound
      exact ⟨mark, head, rest, declaration, fromName, hd, hstart, hhead, hp, hn⟩
    · cases h
  · cases h

lemma Declares.declared?_eq
    (h : Declares bytes current mark head rest declaration name fromName) :
    declared? bytes = some (current, name) := by
  have hs := h.start_eq
  rw [startOf] at hs
  rw [declared?, h.detected]
  simp only [Option.bind_eq_bind, Option.bind_some, hs, h.isDeclaration.token_append,
    length_sub_length, h.isDeclaration.charsOf_inner, h.parsed, h.named, Option.map_some]

namespace Opening

/-- Bytes that declare no encoding are opened like a text. -/
lemma read_bytes_of_undeclared {s : String}
    (hd : detect? (Text.Utf8.encode s.toList) = some (encoding, mark))
    (h : declared? (Text.Utf8.encode s.toList) = none) :
    Opening.read (.bytes (Text.Utf8.encode s.toList)) encoding mark =
      Opening.read (.text s) encoding mark := by
  rw [declared?, hd] at h
  simp only [Option.bind_eq_bind, Option.bind_some] at h
  rw [Opening.read, Opening.read]
  simp only [Source.toBytes, Source.obeysDeclaration]
  split
  · next rest ht =>
    simp only [ht] at h
    split
    · rfl
    · next declaration hp =>
      simp only [hp, Option.map_eq_none_iff] at h
      rw [h]
  · rfl

/-- The declared encoding of a text does not count. -/
lemma encoding_of_read_text {s : String} {opening : Opening}
    (h : Opening.read (.text s) encoding mark = .ok opening) : opening.encoding = encoding := by
  rw [Opening.read] at h
  simp only [Source.obeysDeclaration] at h
  split at h
  · split at h
    · cases h
    · split at h <;> cases h <;> rfl
  · cases h
    rfl

/-- A declaration is read to its end, and then its encoding counts or not. -/
lemma read_of_isDeclaration (source : Source) (hh : IsDeclaration head)
    (hs : startOf encoding mark source.toBytes = head.map Glyph.char ++ rest)
    (hp : Declaration.parse (innerOf head) = .ok declaration) :
    Opening.read source encoding mark =
      match declaration.encoding with
      | some (name, fromName) =>
        if source.obeysDeclaration then
          inEncoding ⟨encoding, encoding.glyphs source.toBytes, rest, declaration.standalone⟩
            source.toBytes name (fromName.length + 2 + rest.length)
            (mark + encoding.unitSize * head.length)
        else .ok ⟨encoding, encoding.glyphs source.toBytes, rest, declaration.standalone⟩
      | none => .ok ⟨encoding, encoding.glyphs source.toBytes, rest, declaration.standalone⟩ := by
  rw [startOf] at hs
  rw [Opening.read]
  simp only [hs, hh.token_append, length_sub_length, hh.charsOf_inner, hp]
  rfl

end Opening

/-- The declaration of a text is passed over. -/
lemma Opening.read_text_of_isDeclaration {s : String} (hh : IsDeclaration head)
    (hs : startOf encoding mark (Text.Utf8.encode s.toList) = head.map Glyph.char ++ rest)
    (hp : Declaration.parse (innerOf head) = .ok declaration) :
    Opening.read (.text s) encoding mark =
      .ok ⟨encoding, encoding.glyphs (Text.Utf8.encode s.toList), rest,
        declaration.standalone⟩ := by
  rw [Opening.read_of_isDeclaration (.text s) hh hs hp]
  cases declaration.encoding <;> rfl

namespace Declares

lemma read_text_iff {s : String}
    (h : Declares (Text.Utf8.encode s.toList) current mark head rest declaration name fromName) :
    read (.text s) = .ok tree ↔ tree? current declaration.standalone rest = some tree := by
  rw [read_eq_ok_iff (.text s) h.detected,
    Opening.read_text_of_isDeclaration h.isDeclaration h.start_eq h.parsed]
  simp

/-- What follows a declaration in bytes is read in the encoding that it names. -/
lemma read_bytes_iff (h : Declares bytes current mark head rest declaration name fromName) :
    read (.bytes bytes) = .ok tree ↔ ∃ encoding,
      Encoding.ofName current name = .ok (.ok encoding) ∧
        tree? encoding declaration.standalone (if encoding = current then rest else
          (encoding.glyphs bytes).drop (mark + current.unitSize * head.length)) = some tree := by
  rw [read_eq_ok_iff (.bytes bytes) h.detected,
    Opening.read_of_isDeclaration (.bytes bytes) h.isDeclaration h.start_eq h.parsed, h.named]
  simp only [Source.toBytes, Source.obeysDeclaration, if_true, Opening.inEncoding]
  cases Encoding.ofName current name with
  | error _ => simp [bind, Except.bind]
  | ok outcome =>
    cases outcome with
    | error _ => simp [bind, Except.bind]
    | ok encoding =>
      simp only [bind, Except.bind, Except.ok.injEq, exists_eq_left']
      by_cases he : encoding = current
      · simp [he, pure, Except.pure]
      · simp [he, pure, Except.pure]

/-- A document may hold every character of its declaration. -/
lemma isAllowed (h : Declares bytes current mark head rest declaration name fromName) :
    ∀ c ∈ head, isAllowed c = true := by
  intro c hc
  have hmem : Glyph.char c ∈ startOf current mark bytes := by
    rw [h.start_eq]
    exact List.mem_append_left _ (List.mem_map_of_mem hc)
  refine current.isLawful_of_mem_glyphs bytes (.char c) ?_
  rw [startOf] at hmem
  split at hmem
  · exact hmem
  · exact List.mem_of_mem_tail hmem

end Declares

/-! ### Encodings -/

/-- The first bytes show a Unicode form. -/
lemma detect?_cases (h : detect? bytes = some (encoding, mark)) :
    encoding = .utf8 ∨ ∃ order, encoding = .utf16 order := by
  unfold detect? at h
  split at h
  · cases h
    exact .inl rfl
  · split at h <;> cases h
    exact .inl rfl
  · repeat' split at h
    all_goals cases h
    all_goals first | exact .inl rfl | exact .inr ⟨_, rfl⟩

/-- A document that goes on in another encoding goes on in one with a byte for every glyph. -/
lemma isBytewise_of_ofName
    (hc : current = .utf8 ∨ ∃ order, current = .utf16 order)
    (h : Encoding.ofName current name = .ok (.ok encoding)) (hne : encoding ≠ current) :
    encoding.IsBytewise := by
  unfold Encoding.ofName at h
  simp only at h
  split at h
  · replace h := Except.ok.inj h
    split at h
    · cases h
    next hsize =>
    split at h
    · next hone =>
      cases h
      cases encoding with
      | latin | ascii | page | tildeless => exact trivial
      | utf16 => cases hone
      | utf8 =>
        obtain rfl | ⟨order, rfl⟩ := hc
        · exact absurd rfl hne
        · exact absurd rfl hsize
    · split at h <;> cases h
      exact absurd rfl hne
  · split at h
    case h_2 =>
      split at h <;> cases h
      exact trivial
    all_goals cases h
    all_goals exact trivial

/-- Bytes of ASCII other than 0 show UTF-8. -/
lemma detect?_of_ascii
    (h : ∀ b ∈ bytes, 0 < b.toNat ∧ b.toNat < 0x80) (hd : detect? bytes = some (encoding, mark)) :
    encoding = .utf8 ∧ mark = 0 := by
  unfold detect? at hd
  split at hd
  · cases hd
    exact ⟨rfl, rfl⟩
  · split at hd <;> cases hd
    exact ⟨rfl, rfl⟩
  · next a b rest =>
    have ha := h a (by simp)
    have hb := h b (by simp)
    have hne (c : UInt8) (hc : c.toNat = 0 ∨ 0x80 ≤ c.toNat) :
        ¬(a == c) = true ∧ ¬(b == c) = true := by
      simp only [beq_iff_eq, ← UInt8.toNat_inj]
      omega
    have hshown : some (Encoding.utf8, 0) = some (encoding, mark) := by
      simpa [hne 0xfe (by decide), hne 0xff (by decide), hne 0xef (by decide), hne 0 (by decide)]
        using hd
    cases hshown
    exact ⟨rfl, rfl⟩

end PlayerPage.Xml
