import Mathlib.Tactic.Common
import PlayerPage.Xml.Document

/-!
Documents that declare an encoding which the reader cannot use.

* `declared?`: the encoding that the bytes of a document show, and the name that it declares.
* `Encoding.ofName_error_kind`: the faults that a name brings are none of the document.
* `read_bytes_error_iff`: a document is refused with a fault of another kind than that of documents
  exactly if it declares the name of an encoding that brings this fault.
-/

namespace PlayerPage.Xml

/-- The classes of faults that the name of an encoding brings. -/
def IsEncodingKind (kind : FaultKind) : Prop :=
  kind = .lookup ∨ kind = .unicode ∨ kind = .undecodable ∨ kind = .value

/-- The faults that the name of an encoding brings are none of the document. -/
lemma Encoding.ofName_error_kind {current : Encoding} {name : List Char} {f : Fault}
    (h : Encoding.ofName current name = .error f) : IsEncodingKind f.kind := by
  rw [Encoding.ofName] at h
  split at h
  · cases h
  · split at h <;> cases h
    · exact .inl rfl
    · exact .inl rfl
    · exact .inr (.inl rfl)
    · exact .inr (.inr (.inl rfl))
    · exact .inr (.inl rfl)
    · exact .inr (.inr (.inr rfl))

/-- The encoding that the bytes of a document show, and the name of the encoding that it declares
of itself, if it does so. -/
def declared? (bytes : List UInt8) : Option (Encoding × List Char) := do
  let (encoding, mark) ← detect? bytes
  let document := encoding.glyphs bytes
  let start := if mark == 0 then document else document.tail
  match Prolog.token encoding start with
  | .ok (.declaration, rest) =>
    let body := (start.drop 5).take (start.length - rest.length - 7)
    match Declaration.parse (charsOf body) with
    | .ok declaration => declaration.encoding.map fun (name, _) => (encoding, name)
    | .error _ => none
  | _ => none

/-- The step fails, if at all, by a flaw of a document. -/
def FailsByDocument {α : Type} (x : Except Fault α) : Prop :=
  ∀ f, x = .error f → f.kind = .xml

lemma FailsByDocument.ok {α : Type} (a : α) : FailsByDocument (.ok a) :=
  fun _ h => by cases h

lemma FailsByDocument.bind {α β : Type} {x : Except Fault α} {k : α → Except Fault β}
    (hx : FailsByDocument x) (hk : ∀ a, FailsByDocument (k a)) : FailsByDocument (x >>= k) := by
  cases x with
  | ok a => exact hk a
  | error f => exact fun g h => hx g (by cases h; rfl)

/-- A declared name is used, or brings the fault that it brings by itself. -/
lemma Opening.inEncoding_cases (opening : Opening) (bytes : List UInt8) (name : List Char)
    (left consumed : Nat) :
    (∃ f, Encoding.ofName opening.encoding name = .error f ∧
        opening.inEncoding bytes name left consumed = .error f) ∨
      ((∃ x, Encoding.ofName opening.encoding name = .ok x) ∧
        FailsByDocument (opening.inEncoding bytes name left consumed)) := by
  rw [inEncoding]
  cases hn : Encoding.ofName opening.encoding name with
  | error f => exact .inl ⟨f, rfl, rfl⟩
  | ok x =>
    refine .inr ⟨⟨x, rfl⟩, fun f h => ?_⟩
    cases x with
    | error reason => cases h; rfl
    | ok encoding =>
      change (if encoding = opening.encoding then _ else _) = _ at h
      split at h <;> cases h

/-- The declaration of a document is read, unless the document is flawed or the encoding that it
declares cannot be used. -/
lemma Opening.read_cases {bytes : List UInt8} {encoding : Encoding} {mark : Nat}
    (hd : detect? bytes = some (encoding, mark)) :
    (∃ name f, declared? bytes = some (encoding, name) ∧ Encoding.ofName encoding name = .error f ∧
        Opening.read (.bytes bytes) encoding mark = .error f) ∨
      ((∀ current name, declared? bytes = some (current, name) →
          ∃ x, Encoding.ofName current name = .ok x) ∧
        FailsByDocument (Opening.read (.bytes bytes) encoding mark)) := by
  rw [Opening.read, declared?, hd]
  simp only [Option.bind_eq_bind, Option.bind_some, Source.toBytes, Source.obeysDeclaration,
    if_true]
  generalize (if (mark == 0) = true then encoding.glyphs bytes else _) = start
  -- both sides look for a declaration in the same place
  by_cases hdecl : ∃ rest, Prolog.token encoding start = .ok (.declaration, rest)
  · obtain ⟨rest, ht⟩ := hdecl
    simp only [ht]
    cases Declaration.parse (charsOf ((start.drop 5).take (start.length - rest.length - 7))) with
    | error bad =>
      refine .inr ⟨fun _ _ h => (by cases h), fun f h => ?_⟩
      cases h
      rfl
    | ok declaration =>
      simp only
      cases declaration.encoding with
      | none => exact .inr ⟨fun _ _ h => (by cases h), .ok _⟩
      | some part =>
        obtain ⟨name, fromName⟩ := part
        rcases inEncoding_cases ⟨encoding, encoding.glyphs bytes, rest, declaration.standalone⟩
          bytes name (fromName.length + 2 + rest.length)
          (mark + encoding.unitSize * (start.length - rest.length)) with ⟨f, hf, hr⟩ | ⟨hx, hr⟩
        · exact .inl ⟨name, f, rfl, hf, hr⟩
        · refine .inr ⟨fun _ _ h => ?_, hr⟩
          cases h
          exact hx
  · refine .inr ⟨fun _ _ h => ?_, fun f h => ?_⟩
    · split at h
      · next rest ht => exact absurd ⟨rest, ht⟩ hdecl
      · cases h
    · split at h
      · next rest ht => exact absurd ⟨rest, ht⟩ hdecl
      · cases h

/-- A document whose declaration has been read can only be flawed itself. -/
lemma Opening.tree_failsByDocument (opening : Opening) : FailsByDocument opening.tree := by
  refine .bind (fun f h => ?_) fun found => ?_
  · cases he : events opening.encoding opening.standalone opening.rest with
    | ok a => rw [he] at h; cases h
    | error flaw => rw [he] at h; cases h; rfl
  · cases Element.ofEvents? found with
    | some e => exact .ok e
    | none => exact fun f h => by cases h; rfl

/-- A document declares an encoding that cannot be used, or can only be flawed itself. -/
lemma read_cases (bytes : List UInt8) :
    (∃ encoding name f, declared? bytes = some (encoding, name) ∧
        Encoding.ofName encoding name = .error f ∧ read (.bytes bytes) = .error f) ∨
      ((∀ encoding name, declared? bytes = some (encoding, name) →
          ∃ x, Encoding.ofName encoding name = .ok x) ∧ FailsByDocument (read (.bytes bytes))) := by
  cases hd : detect? bytes with
  | none =>
    refine .inr ⟨fun _ _ h => ?_, fun f h => ?_⟩
    · simp [declared?, hd] at h
    · simp only [read, Source.opening, Source.toBytes, hd] at h
      cases h
      rfl
  | some found =>
    obtain ⟨encoding, mark⟩ := found
    rcases Opening.read_cases hd with ⟨name, f, hn, hf, hr⟩ | ⟨hx, hr⟩
    · refine .inl ⟨encoding, name, f, hn, hf, ?_⟩
      simp only [read, Source.opening, Source.toBytes, hd, hr]
      rfl
    · refine .inr ⟨hx, ?_⟩
      simp only [read, Source.opening, Source.toBytes, hd]
      exact .bind hr Opening.tree_failsByDocument

/-- **Unusable encodings**: bytes are refused with a fault of another kind than that of documents
exactly if they declare the name of an encoding that brings this fault. -/
theorem read_bytes_error_iff (bytes : List UInt8) (f : Fault) :
    read (.bytes bytes) = .error f ∧ f.kind ≠ .xml ↔
      ∃ encoding name, declared? bytes = some (encoding, name) ∧
        Encoding.ofName encoding name = .error f := by
  rcases read_cases bytes with ⟨encoding, name, g, hd, hg, hr⟩ | ⟨hx, hr⟩
  · constructor
    · rintro ⟨hf, -⟩
      obtain rfl : g = f := by rw [hr] at hf; cases hf; rfl
      exact ⟨encoding, name, hd, hg⟩
    · rintro ⟨encoding', name', hd', hf⟩
      rw [hd] at hd'
      cases hd'
      rw [hg] at hf
      cases hf
      refine ⟨hr, fun hk => ?_⟩
      rcases Encoding.ofName_error_kind hg with h | h | h | h <;> rw [hk] at h <;> cases h
  · constructor
    · rintro ⟨hf, hk⟩
      exact absurd (hr f hf) hk
    · rintro ⟨encoding, name, hd, hf⟩
      obtain ⟨x, hx⟩ := hx encoding name hd
      rw [hx] at hf
      cases hf

end PlayerPage.Xml
