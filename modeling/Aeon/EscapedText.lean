import Aeon.TextSearch

namespace Aeon

open List (append_assoc cons_append cons_prefix_cons singleton_append)

/-!
# Quoted names in escaped text

A writer puts values between quotes and escapes what is in them.  A quoted name is found
inside such a value in one place only: behind an escaped quote, where the name ends the
value, or where it is the whole value.  The escaping is given by what it makes of each
item of a value.  This module names nothing of the program.
-/

/-- A name between quotes. -/
def Bytes.quoted (text : Bytes) : Bytes :=
  0x22 :: (text ++ [0x22])

theorem Bytes.quoted_ne_nil (text : Bytes) : Bytes.quoted text ≠ [] :=
  List.cons_ne_nil _ _

/--
An escaping: a plain byte stands for itself, a quote has a backslash in front of it, and
every other escape starts with a backslash and holds no quote.
-/
structure Escaping (Item : Type) where
  escape : Item → Bytes
  plain : UInt8 → Bool
  literal : UInt8 → Item
  quote : Item
  plain_ne_quote : plain 0x22 = false
  plain_ne_backslash : plain 0x5c = false
  escape_literal : ∀ byte, plain byte = true → escape (literal byte) = [byte]
  escape_quote : escape quote = [0x5c, 0x22]
  other : ∀ item,
    (∃ byte, plain byte = true ∧ item = literal byte) ∨ item = quote ∨
      ∃ rest, escape item = 0x5c :: rest ∧ 0x22 ∉ rest

namespace Escaping

variable {Item : Type}
variable (escaping : Escaping Item)

/-- A value as it is written. -/
def text (value : List Item) : Bytes :=
  value.flatMap escaping.escape

/-- The items of a name. -/
def spell (name : Bytes) : List Item :=
  name.map escaping.literal

/-- Only plain bytes. -/
def Plain (name : Bytes) : Prop :=
  ∀ byte ∈ name, escaping.plain byte = true

/-- The name, or a quote and the name at the end. -/
def Collides
    (name : Bytes)
    (value : List Item) : Prop :=
  value = escaping.spell name ∨ escaping.quote :: escaping.spell name <:+ value

variable {escaping}
variable {name : Bytes}

theorem text_cons
    (item : Item)
    (value : List Item) :
    escaping.text (item :: value) = escaping.escape item ++ escaping.text value :=
  List.flatMap_cons

theorem text_spell
    (plain : escaping.Plain name) :
    escaping.text (escaping.spell name) = name := by
  induction name with
  | nil => rfl
  | cons byte name ih =>
    rw [Plain, List.forall_mem_cons] at plain
    rw [spell, List.map_cons, text_cons, escaping.escape_literal byte plain.1, ← spell,
      ih plain.2, singleton_append]

theorem escape_cases (item : Item) :
    (∃ byte, escaping.plain byte = true ∧ item = escaping.literal byte) ∨
      ∃ rest, escaping.escape item = 0x5c :: rest := by
  rcases escaping.other item with literal | rfl | ⟨rest, escape, -⟩
  · exact Or.inl literal
  · exact Or.inr ⟨_, escaping.escape_quote⟩
  · exact Or.inr ⟨rest, escape⟩

theorem literal_injective
    {byte other : UInt8}
    (plain : escaping.plain byte = true)
    (otherPlain : escaping.plain other = true)
    (same : escaping.literal byte = escaping.literal other) :
    byte = other := by
  have escapes := congrArg escaping.escape same
  rw [escaping.escape_literal byte plain, escaping.escape_literal other otherPlain] at escapes
  exact List.head_eq_of_cons_eq escapes

theorem plain_ne
    {byte : UInt8}
    (plain : escaping.plain byte = true) :
    byte ≠ 0x22 ∧ byte ≠ 0x5c := by
  constructor
  · rintro rfl
    rw [escaping.plain_ne_quote] at plain
    cases plain
  · rintro rfl
    rw [escaping.plain_ne_backslash] at plain
    cases plain

/-- A written value is the name up to its closing quote only if it is the name. -/
theorem name_prefix_iff
    (plain : escaping.Plain name)
    (value : List Item)
    (tail : Bytes) :
    name ++ [0x22] <+: escaping.text value ++ 0x22 :: tail ↔
      value = escaping.spell name := by
  induction name generalizing value with
  | nil =>
    cases value with
    | nil => simp [text, spell]
    | cons item value =>
      have apart : ¬ [0x22] <+: escaping.text (item :: value) ++ 0x22 :: tail := by
        rw [text_cons, append_assoc]
        rcases escaping.escape_cases item with ⟨byte, isPlain, rfl⟩ | ⟨rest, escape⟩
        · rw [escaping.escape_literal byte isPlain, singleton_append,
            cons_prefix_cons]
          exact fun occurs => (plain_ne isPlain).1 occurs.1.symm
        · rw [escape, cons_append, cons_prefix_cons]
          exact fun occurs => absurd occurs.1 (by decide)
      simpa [spell] using apart
  | cons first name ih =>
    rw [Plain, List.forall_mem_cons] at plain
    rw [spell, List.map_cons, cons_append]
    cases value with
    | nil => simp [text, (plain_ne plain.1).1]
    | cons item value =>
      rw [text_cons, append_assoc]
      rcases escaping.escape_cases item with ⟨byte, isPlain, rfl⟩ | ⟨rest, escape⟩
      · rw [escaping.escape_literal byte isPlain, singleton_append,
          cons_prefix_cons, ih plain.2, List.cons.injEq]
        refine and_congr_left fun _ => ⟨fun same => same ▸ rfl, fun same => ?_⟩
        exact (literal_injective isPlain plain.1 same).symm
      · rw [escape, cons_append, cons_prefix_cons, List.cons.injEq]
        constructor
        · rintro ⟨rfl, -⟩
          exact absurd rfl (plain_ne plain.1).2
        · rintro ⟨rfl, -⟩
          rw [escaping.escape_literal first plain.1, List.cons.injEq] at escape
          exact absurd escape.1 (plain_ne plain.1).2

/-! ## Searching -/

theorem behind_name
    (plain : escaping.Plain name)
    (tail : Bytes) :
    Bytes.behind (Bytes.quoted name)
        (0x22 :: (escaping.text (escaping.spell name) ++ 0x22 :: tail)) = some tail := by
  rw [text_spell plain]
  have found := Bytes.behind_of_prefix (Bytes.quoted_ne_nil name) tail
  rwa [Bytes.quoted, cons_append, append_assoc, singleton_append] at found

variable {value : List Item}

/-- A written quote is not where the name is found, unless only the name follows. -/
theorem behind_quote
    (plain : escaping.Plain name)
    (other : value ≠ escaping.spell name)
    (tail : Bytes) :
    Bytes.behind (Bytes.quoted name) (0x22 :: (escaping.text value ++ 0x22 :: tail)) =
      Bytes.behind (Bytes.quoted name) (escaping.text value ++ 0x22 :: tail) := by
  refine Bytes.behind_cons ?_
  rw [Bytes.quoted, cons_prefix_cons]
  exact fun occurs => other ((name_prefix_iff plain value tail).mp occurs.2)

theorem behind_backslash
    (text : Bytes) :
    Bytes.behind (Bytes.quoted name) (0x5c :: text) =
      Bytes.behind (Bytes.quoted name) text := by
  refine Bytes.behind_cons ?_
  rw [Bytes.quoted, cons_prefix_cons]
  exact fun occurs => absurd occurs.1 (by decide)

section

variable
    (plain : escaping.Plain name)

include plain

theorem behind_item
    {item : Item}
    (other : item :: value ≠ escaping.quote :: escaping.spell name)
    (tail : Bytes) :
    Bytes.behind (Bytes.quoted name) (escaping.text (item :: value) ++ 0x22 :: tail) =
      Bytes.behind (Bytes.quoted name) (escaping.text value ++ 0x22 :: tail) := by
  rw [text_cons, append_assoc]
  rcases escaping.other item with ⟨byte, isPlain, rfl⟩ | rfl | ⟨rest, escape, lacking⟩
  · rw [escaping.escape_literal byte isPlain]
    refine Bytes.behind_append_of_notMem ?_ _
    rw [List.mem_singleton]
    exact (plain_ne isPlain).1.symm
  · rw [escaping.escape_quote, cons_append, behind_backslash, singleton_append]
    exact behind_quote plain (fun same => other (by rw [same])) tail
  · rw [escape, cons_append, behind_backslash]
    exact Bytes.behind_append_of_notMem lacking _

theorem behind_text
    (absent : ¬ escaping.quote :: escaping.spell name <:+ value)
    (tail : Bytes) :
    Bytes.behind (Bytes.quoted name) (escaping.text value ++ 0x22 :: tail) =
      Bytes.behind (Bytes.quoted name) (0x22 :: tail) := by
  induction value with
  | nil => rfl
  | cons item value ih =>
    rw [List.suffix_cons_iff, not_or] at absent
    rw [behind_item plain (Ne.symm absent.1), ih absent.2]

theorem behind_suffix
    (suffix : escaping.quote :: escaping.spell name <:+ value)
    (tail : Bytes) :
    Bytes.behind (Bytes.quoted name) (escaping.text value ++ 0x22 :: tail) =
      some tail := by
  induction value with
  | nil => simp at suffix
  | cons item value ih =>
    by_cases whole : item :: value = escaping.quote :: escaping.spell name
    · rw [whole, text_cons, escaping.escape_quote, append_assoc, cons_append,
        behind_backslash, singleton_append, behind_name plain]
    · rw [List.suffix_cons_iff] at suffix
      rw [behind_item plain whole,
        ih (suffix.resolve_left (Ne.symm whole))]

theorem behind_collision
    (collides : escaping.Collides name value)
    (tail : Bytes) :
    Bytes.behind (Bytes.quoted name) (0x22 :: (escaping.text value ++ 0x22 :: tail)) =
      some tail := by
  by_cases same : value = escaping.spell name
  · rw [same, behind_name plain]
  · rw [behind_quote plain same, behind_suffix plain (collides.resolve_left same)]

/-- The search passes every other written value. -/
theorem behind_value
    (apart : ¬ escaping.Collides name value)
    (tail : Bytes) :
    Bytes.behind (Bytes.quoted name) (0x22 :: (escaping.text value ++ 0x22 :: tail)) =
      Bytes.behind (Bytes.quoted name) (0x22 :: tail) := by
  rw [Collides, not_or] at apart
  rw [behind_quote plain apart.1, behind_text plain apart.2]

end

end Escaping

end Aeon
