import Aeon.PromptReading

namespace Aeon.Text.PromptJson

open Aeon.Json (Blank Document Entry Hex4 Padded RawJson Spells Token Tokens separated)
open List (append_assoc cons_append map_cons map_nil nil_append)

/-!
# A text spells one tree

The dialect is unambiguous: a value's text cannot be cut off early or read on, because
a number ends where no number byte follows and everything else is closed by a byte of
its own.  Two documents of one text therefore have the same tree.
-/

/-- A maximal run of one kind of byte is determined, -/
theorem run_unique
    {kind : UInt8 → Bool}
    {run other rest otherRest : Bytes}
    (all : ∀ byte ∈ run, kind byte = true)
    (otherAll : ∀ byte ∈ other, kind byte = true)
    (ends : ∀ byte ∈ rest.head?, kind byte = false)
    (otherEnds : ∀ byte ∈ otherRest.head?, kind byte = false)
    (same : run ++ rest = other ++ otherRest) :
    run = other ∧ rest = otherRest := by
  have taken {run rest : Bytes}
      (all : ∀ byte ∈ run, kind byte = true)
      (ends : ∀ byte ∈ rest.head?, kind byte = false) :
      (run ++ rest).takeWhile kind = run := by
    rw [List.takeWhile_append_of_pos all]
    cases rest with
    | nil => simp
    | cons byte rest => simp [ends byte rfl]
  have first := taken all ends
  rw [same, taken otherAll otherEnds] at first
  subst first
  exact ⟨rfl, List.append_cancel_left same⟩

variable {byte otherByte : UInt8}
variable {rest otherRest : Bytes}
variable {text : Bytes}
variable {tree : RawJson}

/-- and so is leading blank space. -/
theorem blank_unique
    {space other rest otherRest : Bytes}
    (blank : Blank space)
    (otherBlank : Blank other)
    (visible : Json.isWhitespace byte = false)
    (otherVisible : Json.isWhitespace otherByte = false)
    (same : space ++ byte :: rest = other ++ otherByte :: otherRest) :
    byte = otherByte ∧ rest = otherRest := by
  obtain ⟨-, behind⟩ := run_unique blank otherBlank (by simpa using visible)
    (by simpa using otherVisible) same
  exact List.cons.inj behind

/-! ## Strings -/

theorem hex4_unique
    {digits other : Bytes}
    {code otherCode : Nat}
    (spells : Hex4 digits code)
    (otherSpells : Hex4 other otherCode)
    (same : digits ++ rest = other ++ otherRest) :
    code = otherCode ∧ rest = otherRest := by
  cases spells with
  | digits first second third fourth =>
    cases otherSpells with
    | digits otherFirst otherSecond otherThird otherFourth =>
      simp only [cons_append, nil_append, List.cons.injEq] at same
      obtain ⟨rfl, rfl, rfl, rfl, rfl⟩ := same
      rw [first] at otherFirst
      rw [second] at otherSecond
      rw [third] at otherThird
      rw [fourth] at otherFourth
      cases otherFirst
      cases otherSecond
      cases otherThird
      cases otherFourth
      exact ⟨rfl, rfl⟩

/-- The bytes up to the closing quote have one reading. -/
theorem tokens_unique
    {body other rest otherRest : Bytes}
    {tokens otherTokens : List Token}
    (spells : Tokens AnyByte body tokens)
    (otherSpells : Tokens AnyByte other otherTokens)
    (same : body ++ 0x22 :: rest = other ++ 0x22 :: otherRest) :
    tokens = otherTokens ∧ rest = otherRest := by
  have noUnicode : Json.simpleEscape 0x75 = none := by decide
  induction spells generalizing other otherTokens with
  | done =>
    cases otherSpells with
    | done => exact ⟨rfl, (List.cons.inj same).2⟩
    | plain _ unquoted => exact absurd (List.cons.inj same).1.symm unquoted
    | simple => cases (List.cons.inj same).1
    | unicode => cases (List.cons.inj same).1
  | plain allows unquoted unescaped _ ih =>
    cases otherSpells with
    | done => exact absurd (List.cons.inj same).1 unquoted
    | plain _ _ _ others =>
      obtain ⟨rfl, behind⟩ := List.cons.inj same
      obtain ⟨rfl, rests⟩ := ih others behind
      exact ⟨rfl, rests⟩
    | simple => exact absurd (List.cons.inj same).1 unescaped
    | unicode => exact absurd (List.cons.inj same).1 unescaped
  | @simple escaped _ _ _ escape _ ih =>
    cases otherSpells with
    | done => cases (List.cons.inj same).1
    | plain _ _ unescaped => exact absurd (List.cons.inj same).1.symm unescaped
    | simple otherEscape others =>
      obtain ⟨rfl, behind⟩ := List.cons.inj (List.cons.inj same).2
      rw [escape] at otherEscape
      cases otherEscape
      obtain ⟨rfl, rests⟩ := ih others behind
      exact ⟨rfl, rests⟩
    | unicode =>
      obtain ⟨rfl, -⟩ := List.cons.inj (List.cons.inj same).2
      rw [noUnicode] at escape
      cases escape
  | unicode digits _ ih =>
    cases otherSpells with
    | done => cases (List.cons.inj same).1
    | plain _ _ unescaped => exact absurd (List.cons.inj same).1.symm unescaped
    | simple otherEscape =>
      obtain ⟨rfl, -⟩ := List.cons.inj (List.cons.inj same).2
      rw [noUnicode] at otherEscape
      cases otherEscape
    | unicode otherDigits others =>
      simp only [cons_append, append_assoc, List.cons.injEq,
        true_and] at same
      obtain ⟨rfl, behind⟩ := hex4_unique digits otherDigits same
      obtain ⟨rfl, rests⟩ := ih others behind
      exact ⟨rfl, rests⟩

/-! ## Values -/

/-- Whatever stands behind it, the text has no other reading. -/
def Unique
    (text : Bytes)
    (tree : RawJson) : Prop :=
  ∀ {other otherTree rest otherRest},
    Spells dialect other otherTree → EndsNumber rest → EndsNumber otherRest →
      text ++ rest = other ++ otherRest → tree = otherTree ∧ rest = otherRest

/-- The first byte of a text tells what its tree is. -/
def startsLike (first : UInt8) : RawJson → Bool
  | .null => first = 0x6e
  | .bool boolean => first = if boolean then 0x74 else 0x66
  | .number _ => first = 0x2d || isDigit first
  | .string _ => first = 0x22
  | .array _ => first = 0x5b
  | .object _ => first = 0x7b

theorem spells_startsLike
    (spells : Spells dialect text tree) :
    ∃ first rest, text = first :: rest ∧ startsLike first tree = true := by
  cases spells with
  | number scanned =>
    obtain ⟨first, rest, shape, starts, -⟩ := scanned.starts
    exact ⟨first, rest, shape, by simpa [startsLike] using starts⟩
  | null => exact ⟨_, _, rfl, rfl⟩
  | true => exact ⟨_, _, rfl, rfl⟩
  | false => exact ⟨_, _, rfl, rfl⟩
  | string => exact ⟨_, _, rfl, rfl⟩
  | emptyArray => exact ⟨_, _, rfl, rfl⟩
  | array => exact ⟨_, _, rfl, rfl⟩
  | emptyObject => exact ⟨_, _, rfl, rfl⟩
  | object => exact ⟨_, _, rfl, rfl⟩

/-- A byte that ends an element or a member. -/
structure Closes (byte : UInt8) : Prop where
  visible : Json.isWhitespace byte = false
  ends : isNumberByte byte = false

/-- An element is determined if its text is, -/
theorem padded_unique
    {padded other : Padded}
    (spaced : padded.Spaced)
    (otherSpaced : other.Spaced)
    (spells : Spells dialect padded.text padded.tree)
    (otherSpells : Spells dialect other.text other.tree)
    (unique : Unique padded.text padded.tree)
    (closes : Closes byte)
    (otherCloses : Closes otherByte)
    (same : padded.source ++ byte :: rest = other.source ++ otherByte :: otherRest) :
    padded.tree = other.tree ∧ byte = otherByte ∧ rest = otherRest := by
  obtain ⟨first, tail, shape, visible, -⟩ := Spells.head spells
  obtain ⟨otherFirst, otherTail, otherShape, otherVisible, -⟩ := Spells.head otherSpells
  have texts : padded.text ++ (padded.trail ++ byte :: rest) =
      other.text ++ (other.trail ++ otherByte :: otherRest) := by
    simp only [Padded.source, append_assoc] at same
    refine (run_unique spaced.lead otherSpaced.lead ?_ ?_ same).2
    · simpa [shape] using visible
    · simpa [otherShape] using otherVisible
  obtain ⟨trees, trails⟩ := unique otherSpells (endsNumber_blank spaced.trail closes.ends)
    (endsNumber_blank otherSpaced.trail otherCloses.ends) texts
  exact ⟨trees, blank_unique spaced.trail otherSpaced.trail closes.visible
    otherCloses.visible trails⟩

/-- and a member by its key and its element. -/
theorem entry_unique
    {entry other : Entry}
    (spaced : entry.Spaced AnyByte)
    (otherSpaced : other.Spaced AnyByte)
    (spells : Spells dialect entry.padded.text entry.padded.tree)
    (otherSpells : Spells dialect other.padded.text other.padded.tree)
    (unique : Unique entry.padded.text entry.padded.tree)
    (closes : Closes byte)
    (otherCloses : Closes otherByte)
    (same : entry.source ++ byte :: rest = other.source ++ otherByte :: otherRest) :
    entry.member = other.member ∧ byte = otherByte ∧ rest = otherRest := by
  simp only [Entry.source, append_assoc, cons_append] at same
  have quoted := (blank_unique spaced.lead otherSpaced.lead (by decide) (by decide) same).2
  obtain ⟨keys, gaps⟩ := tokens_unique spaced.spells otherSpaced.spells quoted
  have values := (blank_unique spaced.gap otherSpaced.gap (by decide) (by decide) gaps).2
  obtain ⟨trees, behind⟩ := padded_unique spaced.padded otherSpaced.padded spells
    otherSpells unique closes otherCloses values
  exact ⟨Prod.ext keys trees, behind⟩

/-- A list is read one way when each of its items is. -/
theorem separated_unique
    {Piece Value : Type}
    {source : Piece → Bytes}
    {value : Piece → Value}
    {close : UInt8}
    (closes : Closes close)
    (notComma : close ≠ 0x2c)
    {pieces others : List Piece}
    (nonempty : pieces ≠ [])
    (otherNonempty : others ≠ [])
    (each : ∀ piece ∈ pieces, ∀ other ∈ others,
      ∀ {byte otherByte rest otherRest}, Closes byte → Closes otherByte →
        source piece ++ byte :: rest = source other ++ otherByte :: otherRest →
          value piece = value other ∧ byte = otherByte ∧ rest = otherRest)
    {rest otherRest : Bytes}
    (same : separated (pieces.map source) ++ close :: rest =
      separated (others.map source) ++ close :: otherRest) :
    pieces.map value = others.map value ∧ rest = otherRest := by
  have comma : Closes 0x2c := ⟨by decide, by decide⟩
  induction pieces generalizing others with
  | nil => exact absurd rfl nonempty
  | cons piece pieces ih =>
    obtain ⟨other, others, rfl⟩ := List.exists_cons_of_ne_nil otherNonempty
    have heads := @each piece List.mem_cons_self other List.mem_cons_self
    match pieces, others with
    | [], [] =>
      obtain ⟨values, -, rests⟩ := heads closes closes same
      exact ⟨by simpa using values, rests⟩
    | [], second :: others =>
      simp only [map_cons, map_nil, separated, append_assoc,
        cons_append] at same
      exact absurd (heads closes comma same).2.1 notComma
    | second :: pieces, [] =>
      simp only [map_cons, map_nil, separated, append_assoc,
        cons_append] at same
      exact absurd (heads comma closes same).2.1.symm notComma
    | second :: pieces, otherSecond :: others =>
      simp only [map_cons, separated, append_assoc,
        cons_append] at same
      obtain ⟨values, -, behind⟩ := heads comma comma same
      obtain ⟨tails, rests⟩ := @ih (otherSecond :: others)
        (by simp) (by simp) (fun piece isPiece other isOther =>
          each piece (List.mem_cons_of_mem _ isPiece) other
            (List.mem_cons_of_mem _ isOther)) behind
      refine ⟨?_, rests⟩
      rw [map_cons, values, tails]
      rfl

theorem separated_visible
    {Piece : Type}
    {source : Piece → Bytes}
    {close : UInt8}
    (visible : Json.isWhitespace close = false)
    {pieces : List Piece}
    (nonempty : pieces ≠ [])
    (starts : ∀ piece ∈ pieces, ∃ lead first tail,
      source piece = lead ++ first :: tail ∧ Blank lead ∧
        Json.isWhitespace first = false ∧ first ≠ close)
    {space rest otherRest : Bytes}
    (blank : Blank space) :
    space ++ close :: rest ≠ separated (pieces.map source) ++ close :: otherRest := by
  intro same
  obtain ⟨piece, others, rfl⟩ := List.exists_cons_of_ne_nil nonempty
  obtain ⟨lead, first, tail, shape, leadBlank, firstVisible, other⟩ :=
    starts piece List.mem_cons_self
  obtain ⟨behind, listed⟩ : ∃ behind,
      separated ((piece :: others).map source) ++ close :: otherRest =
        lead ++ first :: behind := by
    cases others <;>
      simp only [map_cons, map_nil, separated, shape, append_assoc,
        cons_append] <;> exact ⟨_, rfl⟩
  rw [listed] at same
  exact other (blank_unique blank leadBlank visible firstVisible same).1.symm

theorem padded_starts
    {padded : Padded}
    (spaced : padded.Spaced)
    (spells : Spells dialect padded.text padded.tree) :
    ∃ lead first tail,
      padded.source = lead ++ first :: tail ∧ Blank lead ∧
        Json.isWhitespace first = false ∧ first ≠ 0x5d := by
  obtain ⟨first, tail, shape, visible, notClose, -⟩ := Spells.head spells
  exact ⟨padded.lead, first, tail ++ padded.trail, by simp [Padded.source, shape],
    spaced.lead, visible, notClose⟩

theorem entry_starts
    {entry : Entry}
    (spaced : entry.Spaced AnyByte) :
    ∃ lead first tail,
      entry.source = lead ++ first :: tail ∧ Blank lead ∧
        Json.isWhitespace first = false ∧ first ≠ 0x7d :=
  ⟨entry.lead, 0x22, _, rfl, spaced.lead, by decide, by decide⟩

theorem closes_bracket : Closes 0x5d := ⟨by decide, by decide⟩

theorem closes_brace : Closes 0x7d := ⟨by decide, by decide⟩

/-- Two readings of one text start like the same kind of value. -/
theorem starts_alike
    {other otherRest : Bytes}
    {otherTree : RawJson}
    (otherSpells : Spells dialect other otherTree)
    {first : UInt8}
    {tail : Bytes}
    (same : first :: tail = other ++ otherRest) :
    startsLike first otherTree = true := by
  obtain ⟨otherFirst, otherTail, rfl, like⟩ := spells_startsLike otherSpells
  obtain ⟨rfl, -⟩ := List.cons.inj same
  exact like

theorem word_unique
    {literal tail : Bytes}
    {first : UInt8}
    (shape : literal = first :: tail)
    (alone : ∀ {other otherTree}, Spells dialect other otherTree →
      startsLike first otherTree = true → literal = other ∧ tree = otherTree) :
    Unique literal tree := by
  intro other otherTree rest otherRest otherSpells _ _ same
  have starts : first :: (tail ++ rest) = other ++ otherRest := by
    rw [← same, shape, cons_append]
  obtain ⟨rfl, rfl⟩ := alone otherSpells (starts_alike otherSpells starts)
  exact ⟨rfl, List.append_cancel_left same⟩

theorem number_unique
    {literal : Bytes}
    (scanned : Scanned literal) :
    Unique literal (.number literal) := by
  intro other otherTree rest otherRest otherSpells ends otherEnds same
  have all {literal : Bytes} (scanned : Scanned literal) :
      ∀ byte ∈ literal, isNumberByte byte = true := by
    obtain ⟨first, run, rfl, starts, others⟩ := scanned.starts
    refine List.forall_mem_cons.mpr ⟨?_, others⟩
    rcases starts with rfl | digit
    · decide
    · simp [isNumberByte, digit]
  obtain ⟨first, run, shape, starts, -⟩ := scanned.starts
  have like : startsLike first otherTree = true := by
    rw [shape, cons_append] at same
    exact starts_alike otherSpells same
  have kind {byte : UInt8} (letter : byte ≠ 0x2d ∧ isDigit byte = false) :
      ¬ first = byte := by
    rintro rfl
    rcases starts with dash | digit
    · exact letter.1 dash
    · rw [letter.2] at digit
      cases digit
  cases otherSpells with
  | number otherScanned =>
    obtain ⟨rfl, rests⟩ := run_unique (all scanned) (all otherScanned) ends otherEnds same
    exact ⟨rfl, rests⟩
  | null => exact absurd (of_decide_eq_true like) (kind (by decide))
  | true => exact absurd (of_decide_eq_true like) (kind (by decide))
  | false => exact absurd (of_decide_eq_true like) (kind (by decide))
  | string => exact absurd (of_decide_eq_true like) (kind (by decide))
  | emptyArray => exact absurd (of_decide_eq_true like) (kind (by decide))
  | array => exact absurd (of_decide_eq_true like) (kind (by decide))
  | emptyObject => exact absurd (of_decide_eq_true like) (kind (by decide))
  | object => exact absurd (of_decide_eq_true like) (kind (by decide))

theorem string_unique
    {body : Bytes}
    {tokens : List Token}
    (spells : Tokens AnyByte body tokens) :
    Unique (0x22 :: (body ++ [0x22])) (.string tokens) := by
  intro other otherTree rest otherRest otherSpells _ _ same
  have like := starts_alike otherSpells same
  cases otherSpells with
  | string otherTokens =>
    simp only [cons_append, append_assoc, nil_append, List.cons.injEq,
      true_and] at same
    obtain ⟨rfl, rests⟩ := tokens_unique spells otherTokens same
    exact ⟨rfl, rests⟩
  | number | null | true | false | emptyArray | array | emptyObject | object => cases like

theorem array_unique
    {elements : List Padded}
    (nonempty : elements ≠ [])
    (spaced : ∀ padded ∈ elements, padded.Spaced)
    (each : ∀ padded ∈ elements, Spells dialect padded.text padded.tree)
    (unique : ∀ padded ∈ elements, Unique padded.text padded.tree) :
    Unique (0x5b :: (separated (elements.map Padded.source) ++ [0x5d]))
      (.array (elements.map Padded.tree)) := by
  intro other otherTree rest otherRest otherSpells _ _ same
  have like := starts_alike otherSpells same
  cases otherSpells with
  | emptyArray blank =>
    simp only [cons_append, append_assoc, nil_append, List.cons.injEq,
      true_and] at same
    exact absurd same.symm (separated_visible closes_bracket.visible nonempty
      (fun padded isPadded => padded_starts (spaced padded isPadded)
        (each padded isPadded)) blank)
  | array otherNonempty otherSpaced otherEach =>
    simp only [cons_append, append_assoc, nil_append, List.cons.injEq,
      true_and] at same
    obtain ⟨trees, rests⟩ := @separated_unique _ _ Padded.source Padded.tree _
      closes_bracket (by decide) _ _ nonempty otherNonempty
      (fun padded isPadded other isOther => padded_unique (spaced padded isPadded)
        (otherSpaced other isOther) (each padded isPadded) (otherEach other isOther)
        (unique padded isPadded)) _ _ same
    exact ⟨by rw [trees], rests⟩
  | number | null | true | false | string | emptyObject | object => cases like

theorem object_unique
    {entries : List Entry}
    (nonempty : entries ≠ [])
    (spaced : ∀ entry ∈ entries, entry.Spaced AnyByte)
    (each : ∀ entry ∈ entries, Spells dialect entry.padded.text entry.padded.tree)
    (unique : ∀ entry ∈ entries, Unique entry.padded.text entry.padded.tree) :
    Unique (0x7b :: (separated (entries.map Entry.source) ++ [0x7d]))
      (.object (entries.map Entry.member)) := by
  intro other otherTree rest otherRest otherSpells _ _ same
  have like := starts_alike otherSpells same
  cases otherSpells with
  | emptyObject blank =>
    simp only [cons_append, append_assoc, nil_append, List.cons.injEq,
      true_and] at same
    exact absurd same.symm (separated_visible closes_brace.visible nonempty
      (fun entry isEntry => entry_starts (spaced entry isEntry)) blank)
  | object otherNonempty otherSpaced otherEach =>
    simp only [cons_append, append_assoc, nil_append, List.cons.injEq,
      true_and] at same
    obtain ⟨members, rests⟩ := @separated_unique _ _ Entry.source Entry.member _
      closes_brace (by decide) _ _ nonempty otherNonempty
      (fun entry isEntry other isOther => entry_unique (spaced entry isEntry)
        (otherSpaced other isOther) (each entry isEntry) (otherEach other isOther)
        (unique entry isEntry)) _ _ same
    exact ⟨by rw [members], rests⟩
  | number | null | true | false | string | emptyArray | array => cases like

/-- A text spells one tree. -/
theorem spells_unique
    (spells : Spells dialect text tree) :
    Unique text tree := by
  induction spells with
  | null =>
    refine word_unique bytes_null fun otherSpells like => ?_
    cases otherSpells with
    | null => exact ⟨rfl, rfl⟩
    | number | true | false | string | emptyArray | array | emptyObject | object =>
      cases like
  | true =>
    refine word_unique bytes_true fun otherSpells like => ?_
    cases otherSpells with
    | true => exact ⟨rfl, rfl⟩
    | number | null | false | string | emptyArray | array | emptyObject | object =>
      cases like
  | false =>
    refine word_unique bytes_false fun otherSpells like => ?_
    cases otherSpells with
    | false => exact ⟨rfl, rfl⟩
    | number | null | true | string | emptyArray | array | emptyObject | object =>
      cases like
  | number scanned => exact number_unique scanned
  | string spells => exact string_unique spells
  | @emptyArray space blank =>
    intro other otherTree rest otherRest otherSpells ends otherEnds same
    have like := starts_alike otherSpells same
    cases otherSpells with
    | emptyArray otherBlank =>
      simp only [cons_append, append_assoc, nil_append,
        List.cons.injEq, true_and] at same
      exact ⟨rfl, (blank_unique blank otherBlank (by decide) (by decide) same).2⟩
    | array nonempty spaced each =>
      simp only [cons_append, append_assoc, nil_append,
        List.cons.injEq, true_and] at same
      exact absurd same (separated_visible closes_bracket.visible nonempty
        (fun padded isPadded => padded_starts (spaced padded isPadded)
          (each padded isPadded)) blank)
    | number | null | true | false | string | emptyObject | object => cases like
  | array nonempty spaced each ih =>
    exact array_unique nonempty spaced each ih
  | @emptyObject space blank =>
    intro other otherTree rest otherRest otherSpells ends otherEnds same
    have like := starts_alike otherSpells same
    cases otherSpells with
    | emptyObject otherBlank =>
      simp only [cons_append, append_assoc, nil_append,
        List.cons.injEq, true_and] at same
      exact ⟨rfl, (blank_unique blank otherBlank (by decide) (by decide) same).2⟩
    | object nonempty spaced each =>
      simp only [cons_append, append_assoc, nil_append,
        List.cons.injEq, true_and] at same
      exact absurd same (separated_visible closes_brace.visible nonempty
        (fun entry isEntry => entry_starts (spaced entry isEntry)) blank)
    | number | null | true | false | string | emptyArray | array => cases like
  | object nonempty spaced each ih =>
    exact object_unique nonempty spaced each ih

/-- And a document is of one tree. -/
theorem document_unique
    {tree otherTree : RawJson}
    (document : Document dialect text tree)
    (other : Document dialect text otherTree) :
    tree = otherTree := by
  obtain ⟨before, body, behind, beforeBlank, behindBlank, spells, rfl⟩ := document
  obtain ⟨otherBefore, otherBody, otherBehind, otherBeforeBlank, otherBehindBlank,
    otherSpells, same⟩ := other
  obtain ⟨first, tail, shape, visible, -⟩ := Spells.head spells
  obtain ⟨otherFirst, otherTail, otherShape, otherVisible, -⟩ := Spells.head otherSpells
  have bodies := (run_unique beforeBlank otherBeforeBlank
    (by simpa [shape] using visible) (by simpa [otherShape] using otherVisible) same).2
  exact (spells_unique spells otherSpells (endsNumber_end behindBlank)
    (endsNumber_end otherBehindBlank) bodies).1

end Aeon.Text.PromptJson
