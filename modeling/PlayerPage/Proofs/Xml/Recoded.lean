import PlayerPage.Extractor.Document
import PlayerPage.Proofs.Xml.Opening

/-!
Texts that are read by way of their bytes. An extractor reads the bytes of a text in UTF-8, and in
bytes the declared encoding counts.

* `declaration?`, `reread?`: the text that a text becomes on this way, and the encoding whose
  letters count in it; `readWith`: the tree of a text with these letters.
* `read_bytes_encode_iff`: the bytes of a text are read as the text that it becomes.
* `readWith_of_read`, `read_of_readWith`: with the letters of UTF-8 there are the same trees, but
  for those with letters of ISO-8859-1 only.
* `Declares.read_bytes_of_ascii`: in ASCII a text stays what it is.
* `Extractor.parseXml_rereads`: **what an extractor makes of a text**, and the texts that keep their
  tree.
-/

namespace PlayerPage.Xml

/-- The declaration at the start of bytes, and the number of bytes up to its end. -/
def declaration? (bytes : List UInt8) : Option (List Char × Nat) := do
  let (encoding, mark) ← detect? bytes
  let start := startOf encoding mark bytes
  match Prolog.token encoding start with
  | .ok (.declaration, rest) =>
    let size := start.length - rest.length
    some (charsOf (start.take size), mark + encoding.unitSize * size)
  | _ => none

/-- The text that a text becomes when its bytes are read as they declare, and the encoding whose
letters count in it: the bytes that follow the declaration are read in the declared encoding. None
if that encoding is of no use. -/
def reread? (s : String) : Option (Encoding × String) := do
  let bytes := Text.Utf8.encode s.toList
  let (current, _) ← detect? bytes
  match declared? bytes, declaration? bytes with
  | some (_, name), some (head, size) =>
    match Encoding.ofName current name with
    | .ok (.ok encoding) =>
      if encoding = current then some (current, s)
      else
        let rest := (encoding.glyphs (bytes.drop size)).map Glyph.toChar
        some (encoding, String.ofList (head ++ rest))
    | _ => none
  | _, _ => some (current, s)

/-- The tree of a text, where the letters are those of an encoding. -/
def readWith (letters : Encoding) (s : String) : Except Fault Element := do
  let opening ← (Source.text s).opening
  { opening with encoding := letters }.tree

variable {s reread : String} {bytes : List UInt8} {current encoding : Encoding} {mark : Nat}
  {head : List Char} {rest : List Glyph} {declaration : Declaration} {name fromName : List Char}
  {tree : Element}

/-! ### Letters of texts -/

lemma readWith_eq_ok_iff (hd : detect? (Text.Utf8.encode s.toList) = some (current, mark)) :
    readWith encoding s = .ok tree ↔ ∃ opening, Opening.read (.text s) current mark = .ok opening ∧
      tree? encoding opening.standalone opening.rest = some tree := by
  rw [readWith, bind_eq_ok_iff, Source.opening_eq (.text s) hd]
  simp only [Opening.tree_eq_ok_iff]

/-- In a text the letters are those of the encoding that its bytes show. -/
lemma readWith_detected_iff (hd : detect? (Text.Utf8.encode s.toList) = some (current, mark)) :
    readWith current s = .ok tree ↔ read (.text s) = .ok tree := by
  rw [readWith_eq_ok_iff hd, read_eq_ok_iff (.text s) hd]
  refine exists_congr fun opening => and_congr_right fun ho => ?_
  rw [Opening.encoding_of_read_text ho]

/-- With more letters a text keeps its tree. -/
lemma readWith_of_isWithin (h : current.IsWithin encoding) (ht : readWith current s = .ok tree) :
    readWith encoding s = .ok tree := by
  obtain ⟨opening, ho, ht⟩ := exists_of_bind_ok ht
  refine bind_eq_ok_iff.mpr ⟨opening, ho, ?_⟩
  rw [Opening.tree_eq_ok_iff] at ht ⊢
  exact tree?_of_isWithin h ht

/-! ### What a text becomes -/

lemma detect?_of_isDeclaration (hh : IsDeclaration head) (s : List Char) :
    detect? (Text.Utf8.encode (head ++ s)) = some (.utf8, 0) := by
  obtain ⟨body, -, rfl⟩ := hh.opens
  rfl

/-- Whole glyphs after a declaration are read off the text that they make up. -/
lemma readWith_of_glyphs (hh : IsDeclaration head) (ha : ∀ c ∈ head, isAllowed c = true)
    (hp : Declaration.parse (innerOf head) = .ok declaration) (hr : ∀ g ∈ rest, g.IsWhole) :
    readWith encoding (String.ofList (head ++ rest.map Glyph.toChar)) = .ok tree ↔
      tree? encoding declaration.standalone rest = some tree := by
  have hdetect := detect?_of_isDeclaration hh (rest.map Glyph.toChar)
  have hchars : head ++ rest.map Glyph.toChar =
      (head.map Glyph.char ++ rest).map Glyph.toChar := by
    rw [List.map_append, List.map_map]
    exact congrArg (· ++ _) (List.map_id head).symm
  have hstart : startOf .utf8 0 (Text.Utf8.encode (head ++ rest.map Glyph.toChar)) =
      head.map Glyph.char ++ rest := by
    rw [hchars]
    exact utf8Glyphs_encode_toChar
      (List.forall_mem_append.mpr ⟨List.forall_mem_map.mpr ha, hr⟩)
  rw [← String.toList_ofList (l := head ++ rest.map Glyph.toChar)] at hdetect hstart
  rw [readWith_eq_ok_iff hdetect, Opening.read_text_of_isDeclaration hh hstart hp]
  simp

lemma reread?_of_undeclared (hd : detect? (Text.Utf8.encode s.toList) = some (current, mark))
    (hn : declared? (Text.Utf8.encode s.toList) = none) : reread? s = some (current, s) := by
  simp [reread?, hd, hn]

lemma Declares.declaration?_eq
    (h : Declares bytes current mark head rest declaration name fromName) :
    declaration? bytes = some (head, mark + current.unitSize * head.length) := by
  rw [declaration?, h.detected]
  simp only [Option.bind_eq_bind, Option.bind_some, h.start_eq, h.isDeclaration.token_append,
    length_sub_length]
  rw [List.take_append_of_le_length (by simp), List.take_of_length_le (by simp), charsOf_map_char]

/-- What a text becomes that declares an encoding. -/
lemma Declares.reread?_eq
    (h : Declares (Text.Utf8.encode s.toList) current mark head rest declaration name fromName) :
    reread? s =
      match Encoding.ofName current name with
      | .ok (.ok encoding) =>
        if encoding = current then some (current, s)
        else
          some (encoding, String.ofList (head ++
            (encoding.glyphs ((Text.Utf8.encode s.toList).drop
              (mark + current.unitSize * head.length))).map Glyph.toChar))
      | _ => none := by
  have hn : declared? (Text.Utf8.encode s.toList) = some (current, name) := h.declared?_eq
  rw [reread?, h.detected, hn, h.declaration?_eq]
  rfl

/-- The bytes of a text are read as the text that it becomes on this way. -/
theorem read_bytes_encode_iff :
    read (.bytes (Text.Utf8.encode s.toList)) = .ok tree ↔
      ∃ encoding reread, reread? s = some (encoding, reread) ∧
        readWith encoding reread = .ok tree := by
  cases hd : detect? (Text.Utf8.encode s.toList) with
  | none => simp [reread?, read, Source.opening, Source.toBytes, hd, bind, Except.bind]
  | some found =>
    obtain ⟨shown, mark⟩ := found
    cases hn : declared? (Text.Utf8.encode s.toList) with
    | none =>
      rw [reread?_of_undeclared hd hn, read_eq_ok_iff (.bytes (Text.Utf8.encode s.toList)) hd,
        Opening.read_bytes_of_undeclared hd hn, ← read_eq_ok_iff (.text s) hd]
      simp [readWith_detected_iff hd]
    | some found =>
      obtain ⟨current, name⟩ := found
      obtain ⟨mark', head, rest, declaration, fromName, h⟩ := exists_declares hn
      rw [h.read_bytes_iff, h.reread?_eq]
      cases ho : Encoding.ofName current name with
      | error _ => simp
      | ok outcome =>
        cases outcome with
        | error _ => simp
        | ok encoding =>
          by_cases he : encoding = current
          · subst he
            simp [readWith_detected_iff h.detected, h.read_text_iff]
          · have hbytewise := isBytewise_of_ofName (detect?_cases h.detected) ho he
            have hwhole : ∀ g ∈ (encoding.glyphs (Text.Utf8.encode s.toList)).drop
                (mark' + current.unitSize * head.length), g.IsWhole :=
              fun g hg => hbytewise.isWhole _ g (List.mem_of_mem_drop hg)
            simp only [Except.ok.injEq, exists_eq_left', if_neg he, hbytewise.glyphs_drop,
              Option.some.injEq, Prod.mk.injEq, and_assoc, exists_and_left]
            exact (readWith_of_glyphs h.isDeclaration h.isAllowed h.parsed hwhole).symm

/-- The bytes of what a text becomes show the encoding whose letters count, or they show UTF-8 and
this encoding has a byte for every glyph. -/
lemma exists_detect?_of_reread? (h : reread? s = some (encoding, reread)) :
    ∃ shown mark, detect? (Text.Utf8.encode reread.toList) = some (shown, mark) ∧
      (shown = encoding ∨ shown = .utf8 ∧ encoding.IsBytewise) := by
  cases hd : detect? (Text.Utf8.encode s.toList) with
  | none => simp [reread?, hd] at h
  | some found =>
    obtain ⟨current, mark⟩ := found
    cases hn : declared? (Text.Utf8.encode s.toList) with
    | none =>
      rw [reread?_of_undeclared hd hn] at h
      cases h
      exact ⟨_, mark, hd, .inl rfl⟩
    | some found =>
      obtain ⟨current', name⟩ := found
      obtain ⟨mark', head, rest, declaration, fromName, hdecl⟩ := exists_declares hn
      rw [hdecl.reread?_eq] at h
      split at h
      · next encoding' ho =>
        split at h <;> cases h
        · exact ⟨_, mark', hdecl.detected, .inl rfl⟩
        · next he =>
          have hbytewise := isBytewise_of_ofName (detect?_cases hdecl.detected) ho he
          refine ⟨.utf8, 0, ?_, .inr ⟨rfl, hbytewise⟩⟩
          rw [String.toList_ofList]
          exact detect?_of_isDeclaration hdecl.isDeclaration _
      · cases h

/-- A tree of what a text becomes is a tree with the letters that count in it. -/
lemma readWith_of_read (h : reread? s = some (encoding, reread))
    (ht : read (.text reread) = .ok tree) : readWith encoding reread = .ok tree := by
  obtain ⟨shown, mark, hd, hshown⟩ := exists_detect?_of_reread? h
  have hwithin : shown.IsWithin encoding := by
    obtain rfl | ⟨rfl, -⟩ := hshown
    · exact id
    · exact Encoding.utf8_isWithin encoding
  exact readWith_of_isWithin hwithin ((readWith_detected_iff hd).mpr ht)

/-- There are no other trees, unless the letters are those of ISO-8859-1. -/
lemma read_of_readWith (h : reread? s = some (encoding, reread)) (hne : encoding ≠ .latin)
    (ht : readWith encoding reread = .ok tree) : read (.text reread) = .ok tree := by
  obtain ⟨shown, mark, hd, hshown⟩ := exists_detect?_of_reread? h
  have hwithin : encoding.IsWithin shown := by
    obtain rfl | ⟨rfl, hbytewise⟩ := hshown
    · exact id
    · cases encoding with
      | latin => exact absurd rfl hne
      | utf16 => exact hbytewise.elim
      | utf8 | ascii | page | tildeless => exact nofun
  exact (readWith_detected_iff hd).mp (readWith_of_isWithin hwithin ht)

/-! ### Texts in ASCII -/

/-- A text in ASCII is the same in every declared encoding that can be used and has its
characters. -/
lemma Declares.read_bytes_of_ascii
    (h : Declares (Text.Utf8.encode s.toList) current mark head rest declaration name fromName)
    (hs : ∀ c ∈ s.toList, 0 < c.toNat ∧ c.toNat < 0x80 ∧ (encoding = .tildeless → c ≠ '~'))
    (ho : Encoding.ofName current name = .ok (.ok encoding)) (ht : read (.text s) = .ok tree) :
    read (.bytes (Text.Utf8.encode s.toList)) = .ok tree := by
  have hbytes : ∀ b ∈ Text.Utf8.encode s.toList,
      (0 < b.toNat ∧ b.toNat < 0x80) ∧ (encoding = .tildeless → b ≠ 0x7e) := by
    rw [Text.Utf8.encode_of_ascii fun c hc => (hs c hc).2.1]
    refine List.forall_mem_map.mpr fun c hc => ?_
    obtain ⟨hpos, hlt, htilde⟩ := hs c hc
    have hbyte := Text.Utf8.toNat_byte (n := c.toNat) rfl (by omega)
    rw [hbyte]
    refine ⟨⟨hpos, hlt⟩, fun he hb => htilde he ?_⟩
    rw [hb] at hbyte
    exact Char.toNat_inj.mp hbyte.symm
  refine h.read_bytes_iff.mpr ⟨encoding, ho, ?_⟩
  split
  · next he =>
    rw [he]
    exact h.read_text_iff.mp ht
  · next hne =>
    have hbytewise := isBytewise_of_ofName (detect?_cases h.detected) ho hne
    obtain ⟨rfl, rfl⟩ := detect?_of_ascii (fun b hb => (hbytes b hb).1) h.detected
    have hglyphs : encoding.glyphs (Text.Utf8.encode s.toList) = head.map Glyph.char ++ rest := by
      refine Eq.trans (hbytewise.glyphs_of_ascii fun b hb => ?_) h.start_eq
      exact ⟨UInt8.lt_iff_toNat_lt.mpr (hbytes b hb).1.2, (hbytes b hb).2⟩
    rw [hglyphs, List.drop_left' (by simp [Encoding.unitSize])]
    exact tree?_of_isWithin (Encoding.utf8_isWithin encoding) (h.read_text_iff.mp ht)

end PlayerPage.Xml

namespace PlayerPage.Extractor

variable {e : Extractor} {s : String} {tree : Xml.Element} {videoId note : Value}

lemma parseXml_str_eq_ok_iff :
    e.parseXml (.str s) videoId note = .ok tree ↔
      Xml.read (.bytes (Text.Utf8.encode s.toList)) = .ok tree := by
  rw [parseXml, xmlSource]
  simp only [bind, Except.bind]
  cases Xml.read (.bytes (Text.Utf8.encode s.toList)) <;> simp

/-- **Declared encodings of texts**: an extractor reads a text as what it becomes when its bytes are
read once more in the encoding that it declares, with the letters of this encoding. What parses as
such a text has the same tree for the extractor, and nothing else has one, unless ISO-8859-1 is
declared, where ª, µ and º are letters. A text that is a document by itself keeps its tree without a
declared encoding, with the one that its bytes show, and if it is in ASCII, as long as the encoding
has its characters. -/
theorem parseXml_rereads (e : Extractor) (s : String) (videoId note : Value) :
    (∀ tree, e.parseXml (.str s) videoId note = .ok tree ↔
        ∃ encoding reread, Xml.reread? s = some (encoding, reread) ∧
          Xml.readWith encoding reread = .ok tree) ∧
      (∀ encoding reread, Xml.reread? s = some (encoding, reread) → ∀ tree,
          (Xml.read (.text reread) = .ok tree → e.parseXml (.str s) videoId note = .ok tree) ∧
            (encoding ≠ .latin → e.parseXml (.str s) videoId note = .ok tree →
              Xml.read (.text reread) = .ok tree)) ∧
      ∀ tree, Xml.read (.text s) = .ok tree →
        (Xml.declared? (Text.Utf8.encode s.toList) = none →
            e.parseXml (.str s) videoId note = .ok tree) ∧
          ∀ current name encoding,
            Xml.declared? (Text.Utf8.encode s.toList) = some (current, name) →
            Xml.Encoding.ofName current name = .ok (.ok encoding) →
            (encoding = current ∨
              ∀ c ∈ s.toList, 0 < c.toNat ∧ c.toNat < 0x80 ∧ (encoding = .tildeless → c ≠ '~')) →
            e.parseXml (.str s) videoId note = .ok tree := by
  have hreads (tree : Xml.Element) : e.parseXml (.str s) videoId note = .ok tree ↔
      ∃ encoding reread, Xml.reread? s = some (encoding, reread) ∧
        Xml.readWith encoding reread = .ok tree := by
    rw [parseXml_str_eq_ok_iff, Xml.read_bytes_encode_iff]
  refine ⟨hreads, fun encoding reread hr tree => ⟨fun ht => ?_, fun hne ht => ?_⟩,
    fun tree htext => ⟨fun hn => ?_, fun current name encoding hn ho h => ?_⟩⟩
  · exact (hreads tree).mpr ⟨encoding, reread, hr, Xml.readWith_of_read hr ht⟩
  · obtain ⟨encoding', reread', hr', ht⟩ := (hreads tree).mp ht
    rw [hr] at hr'
    cases hr'
    exact Xml.read_of_readWith hr hne ht
  · obtain ⟨_, hopening, -⟩ := exists_of_bind_ok htext
    obtain ⟨shown, mark, hd⟩ := Xml.Source.exists_detect? hopening
    have hr := Xml.reread?_of_undeclared hd hn
    exact (hreads tree).mpr ⟨shown, s, hr, Xml.readWith_of_read hr htext⟩
  · obtain ⟨mark, head, rest, declaration, fromName, hd⟩ := Xml.exists_declares hn
    rw [parseXml_str_eq_ok_iff]
    obtain rfl | hs := h
    · refine hd.read_bytes_iff.mpr ⟨encoding, ho, ?_⟩
      rw [if_pos rfl]
      exact hd.read_text_iff.mp htext
    · exact hd.read_bytes_of_ascii hs ho htext

/-- A text that declares another encoding than that of its bytes is garbled. -/
theorem parseXml_rereads_of_latin :
    let e : Extractor := .ofSettings (some "youtube") [("logger", .recorder true)]
    let parse (text : String) := e.parseXml (.str text) (.str "abc") xmlNote
    let tree (text : String) : Xml.Element := .mk "a" [] [.text text]
    Xml.read (.text "<?xml version='1.0' encoding='ISO-8859-1'?><a>é</a>") = .ok (tree "é") ∧
      parse "<?xml version='1.0' encoding='ISO-8859-1'?><a>é</a>" = .ok (tree "Ã©") ∧
      parse "<?xml version='1.0' encoding='ISO-8859-1'?><a>é</a>" ≠ .ok (tree "é") ∧
      (∀ other, parse "<?xml version='1.0' encoding='US-ASCII'?><a>é</a>" ≠ .ok other) ∧
      parse "<?xml version='1.0' encoding='ISO-8859-1'?><ª/>" = .ok (.mk "Âª" [] []) ∧
      parse "<?xml version='1.0' encoding='ISO-8859-1'?><a>e</a>" = .ok (tree "e") ∧
      parse "<?xml version='1.0' encoding='utf-8'?><a>é</a>" = .ok (tree "é") ∧
      parse "<a>é</a>" = .ok (tree "é") := by
  intro e parse tree
  have hparse (s : String) := parseXml_rereads e s (.str "abc") xmlNote
  have hgarbled : parse "<?xml version='1.0' encoding='ISO-8859-1'?><a>é</a>" =
      .ok (tree "Ã©") :=
    ((hparse _).2.1 .latin "<?xml version='1.0' encoding='ISO-8859-1'?><a>Ã©</a>" rfl _).1 rfl
  refine ⟨rfl, hgarbled, fun h => ?_, fun other h => ?_, ?_, ?_, ?_, ?_⟩
  · rw [hgarbled] at h
    exact absurd (congrArg Xml.Element.leadingText? (Except.ok.inj h)) (by decide)
  · have hread := ((hparse _).2.1 .ascii
      "<?xml version='1.0' encoding='US-ASCII'?><a>\x00\x00</a>" rfl other).2 nofun h
    cases hread
  · exact ((hparse _).1 _).mpr
      ⟨.latin, "<?xml version='1.0' encoding='ISO-8859-1'?><Âª/>", rfl, rfl⟩
  · have hascii : "<?xml version='1.0' encoding='ISO-8859-1'?><a>e</a>".toList.all
        (fun c => decide (0 < c.toNat ∧ c.toNat < 0x80)) = true := rfl
    refine ((hparse _).2.2 _ rfl).2 .utf8 "ISO-8859-1".toList .latin rfl rfl (.inr fun c hc => ?_)
    obtain ⟨hpos, hlt⟩ := of_decide_eq_true (List.all_eq_true.mp hascii c hc)
    exact ⟨hpos, hlt, nofun⟩
  · exact ((hparse _).2.2 _ rfl).2 .utf8 "utf-8".toList .utf8 rfl rfl (.inl rfl)
  · exact ((hparse _).2.2 _ rfl).1 rfl

end PlayerPage.Extractor
