import Aeon.IntegerText
import Mathlib.Data.List.Forall2

namespace Aeon.Parallel

open Aeon.Json (isDigit digitsValue decimal integerText)

/-!
# Device id lists

`parse_device_ids` reads a list such as `0,1,3`.  An entry is trimmed and handed to
`std::stol`, which also takes white space and a sign in front of the digits, and the
`long` it returns is narrowed to an `int`.
-/

/-- The white space that is trimmed around an entry. -/
def isBlank (byte : UInt8) : Bool :=
  byte = 0x20 || byte = 0x09

/-- `isspace` in the C locale. -/
def isSpace (byte : UInt8) : Bool :=
  byte = 0x20 || (0x09 ≤ byte && byte ≤ 0x0d)

/-- The two trimming loops. -/
def trim (entry : Bytes) : Bytes :=
  ((entry.dropWhile isBlank).reverse.dropWhile isBlank).reverse

/-- A sign that `strtol` takes. -/
def signOf (text : Bytes) : Bytes :=
  if text.head? = some 0x2d ∨ text.head? = some 0x2b then text.take 1 else []

/-- `std::stol` in base ten: the value and the bytes taken, or an exception. -/
def stol (text : Bytes) : Option (Int × Nat) :=
  let space := text.takeWhile isSpace
  let signed := text.dropWhile isSpace
  let sign := signOf signed
  let digits := (signed.drop sign.length).takeWhile isDigit
  let value : Int :=
    if sign = [0x2d] then -(digitsValue digits : Int) else digitsValue digits
  if digits = [] ∨ value < -(2 ^ 63) ∨ 2 ^ 63 ≤ value then none
  else some (value, space.length + sign.length + digits.length)

/-- `static_cast<int>` of a `long`. -/
def narrow (value : Int) : Int :=
  value.bmod (2 ^ 32)

/-- The loop of `parse_device_ids` over the entries still to read. -/
def parseEntries
    (text : Bytes) :
    List Int → List Bytes → Except Bytes (List Int)
  | ids, [] => .ok ids
  | ids, entry :: rest =>
    let trimmed := trim entry
    if trimmed = [] then
      -- A trailing or doubled comma is no default.
      if text = [] then .ok ids
      else
        .error (bytes "device id list has an empty entry: \"" ++ text ++
          bytes "\"")
    else
      match stol trimmed with
      | none =>
        .error (bytes "invalid device id: \"" ++ trimmed ++ bytes "\"")
      | some (parsed, consumed) =>
        if consumed ≠ trimmed.length then
          .error (bytes "invalid device id: \"" ++ trimmed ++ bytes "\"")
        else if parsed < 0 then
          .error (bytes "device id must be non-negative: \"" ++ trimmed ++
            bytes "\"")
        else
          parseEntries text (ids ++ [narrow parsed]) rest

/-- `parse_device_ids`. -/
def parseDeviceIds (text : Bytes) : Except Bytes (List Int) :=
  parseEntries text [] (text.splitOn 0x2c)

/-! ## What a list says -/

/-- The entry names a device: digits between blanks, within an `int`. -/
structure NamesId (entry : Bytes) (id : Int) : Prop where
  digits : ∀ byte ∈ trim entry, isDigit byte = true
  nonempty : trim entry ≠ []
  value : id = digitsValue (trim entry)
  representable : id < 2 ^ 31

/-- The text is empty, or a list of entries that name the devices in order. -/
def NamesIds (text : Bytes) (ids : List Int) : Prop :=
  if text = [] then ids = []
  else List.Forall₂ NamesId (text.splitOn 0x2c) ids

/-- The ids, separated by commas. -/
def printIds (ids : List Int) : Bytes :=
  List.intercalate [0x2c] (ids.map fun id => bytes (toString id))

/-- The list is read as what it says, and what was read is printed and read again. -/
def MeansWhatItSays (text : Bytes) : Prop :=
  (∀ ids, parseDeviceIds text = .ok ids ↔ NamesIds text ids) ∧
    ∀ ids, parseDeviceIds text = .ok ids → parseDeviceIds (printIds ids) = .ok ids

/-! ## One entry -/

/-- `std::stol` reads the whole entry as a non-negative number. -/
def Taken (entry : Bytes) (value : Int) : Prop :=
  stol (trim entry) = some (value, (trim entry).length) ∧ 0 ≤ value

/-- No sign, no white space within the blanks, and a value that is an `int`. -/
def Plain (entry : Bytes) : Prop :=
  (trim entry).head?.any isDigit = true ∧ digitsValue (trim entry) < 2 ^ 31

theorem digit_starts
    {first : UInt8}
    (digit : isDigit first = true) :
    isSpace first = false ∧ first ≠ 0x2d ∧ first ≠ 0x2b := by
  simp only [isDigit, Bool.and_eq_true, decide_eq_true_eq] at digit
  refine ⟨?_, ?_, ?_⟩
  · simp only [isSpace, Bool.or_eq_false_iff, decide_eq_false_iff_not,
      Bool.and_eq_false_iff]
    grind
  · rintro rfl
    exact absurd digit.1 (by decide)
  · rintro rfl
    exact absurd digit.1 (by decide)

variable {text : Bytes}
variable {ids : List Int}
variable {entries : List Bytes}

/-- `std::stol` on a text that starts with a digit. -/
theorem stol_digit
    (starts : text.head?.any isDigit = true) :
    stol text =
      if 2 ^ 63 ≤ digitsValue (text.takeWhile isDigit) then none
      else
        some ((digitsValue (text.takeWhile isDigit) : Int),
          (text.takeWhile isDigit).length) := by
  cases text with
  | nil => simp at starts
  | cons first rest =>
    have digit : isDigit first = true := by simpa using starts
    obtain ⟨notSpace, notMinus, notPlus⟩ := digit_starts digit
    have taken :
        (first :: rest).takeWhile isDigit = first :: rest.takeWhile isDigit :=
      List.takeWhile_cons_of_pos digit
    have positive : ¬ (digitsValue (first :: rest.takeWhile isDigit) : Int) <
        -(2 ^ 63) := by
      omega
    unfold stol
    simp only [List.takeWhile_cons_of_neg (show ¬ isSpace first = true by simp [notSpace]),
      List.dropWhile_cons_of_neg (show ¬ isSpace first = true by simp [notSpace]),
      signOf, List.head?_cons, Option.some.injEq, notMinus, notPlus, or_self,
      if_false, List.length_nil, List.drop_zero, taken, List.cons_ne_nil, false_or,
      positive, Nat.zero_add, show ¬ (([] : Bytes) = [0x2d]) by simp]
    by_cases large : 2 ^ 63 ≤ digitsValue (first :: rest.takeWhile isDigit)
    · rw [if_pos (by exact_mod_cast large), if_pos large]
    · rw [if_neg (by exact_mod_cast large), if_neg large]

/-- All the bytes of a text are taken. -/
theorem takeWhile_length_eq
    {α : Type}
    {test : α → Bool}
    {text : List α} :
    (text.takeWhile test).length = text.length ↔ ∀ item ∈ text, test item = true := by
  rw [← List.takeWhile_eq_self_iff]
  constructor
  · intro same
    exact List.IsPrefix.eq_of_length (List.takeWhile_prefix test) same
  · intro same
    rw [same]

/-- Naming an id is being taken for it, plainly. -/
theorem namesId_iff
    {entry : Bytes}
    {id : Int} :
    NamesId entry id ↔ Taken entry id ∧ Plain entry := by
  constructor
  · rintro ⟨digits, nonempty, value, representable⟩
    have starts : (trim entry).head?.any isDigit = true := by
      cases shape : trim entry with
      | nil => exact absurd shape nonempty
      | cons first rest =>
        simpa using digits first (by simp [shape])
    have taken := List.takeWhile_eq_self_iff.mpr digits
    have small : digitsValue (trim entry) < 2 ^ 31 := by omega
    refine ⟨⟨?_, by omega⟩, starts, small⟩
    rw [stol_digit starts, taken, if_neg (by omega), value]
  · rintro ⟨⟨read, -⟩, starts, small⟩
    rw [stol_digit starts] at read
    split at read
    · cases read
    · simp only [Option.some.injEq, Prod.mk.injEq] at read
      obtain ⟨value, length⟩ := read
      have digits := takeWhile_length_eq.mp length
      have taken := List.takeWhile_eq_self_iff.mpr digits
      rw [taken] at value
      refine ⟨digits, ?_, value.symm, ?_⟩
      · intro none
        simp [none] at starts
      · omega

theorem narrow_small
    {value : Int}
    (positive : 0 ≤ value)
    (small : value < 2 ^ 31) :
    narrow value = value := by
  unfold narrow
  rw [Int.bmod_eq_of_le] <;> omega

/-! ## The whole list -/

/-- The loop returns exactly where every entry is taken. -/
theorem parseEntries_eq_ok
    (nonempty : text ≠ [])
    {ids read : List Int}
    {entries : List Bytes} :
    parseEntries text ids entries = .ok read ↔
      ∃ values, List.Forall₂ Taken entries values ∧
        read = ids ++ values.map narrow := by
  induction entries generalizing ids with
  | nil =>
    simp only [parseEntries, Except.ok.injEq, List.forall₂_nil_left_iff,
      exists_eq_left, List.map_nil, List.append_nil]
    exact eq_comm
  | cons entry rest ih =>
    have taken :
        parseEntries text ids (entry :: rest) = .ok read ↔
          ∃ value, Taken entry value ∧
            parseEntries text (ids ++ [narrow value]) rest = .ok read := by
      rw [parseEntries]
      unfold Taken
      simp only [if_neg nonempty]
      constructor
      · intro returned
        split at returned
        · cases returned
        · split at returned
          · cases returned
          · next parsed consumed here =>
              split at returned
              · cases returned
              · next whole =>
                  split at returned
                  · cases returned
                  · next positive =>
                      rw [not_not] at whole
                      exact ⟨parsed, ⟨by rw [here, whole], by omega⟩, returned⟩
      · rintro ⟨value, ⟨read, positive⟩, returned⟩
        have visible : trim entry ≠ [] := by
          intro empty
          rw [empty, show stol [] = none from rfl] at read
          cases read
        rw [if_neg visible, read]
        simpa [Int.not_lt.mpr positive] using returned
    rw [taken]
    constructor
    · rintro ⟨value, isTaken, returned⟩
      obtain ⟨values, others, rfl⟩ := ih.mp returned
      exact ⟨value :: values, .cons isTaken others, by simp⟩
    · rintro ⟨values, each, rfl⟩
      obtain ⟨value, others, isTaken, rest, rfl⟩ :=
        List.forall₂_cons_left_iff.mp each
      exact ⟨value, isTaken, ih.mpr ⟨others, rest, by simp⟩⟩

theorem trim_digits
    (digits : ∀ byte ∈ text, isDigit byte = true) :
    trim text = text := by
  have kept (part : Bytes) (digits : ∀ byte ∈ part, isDigit byte = true) :
      part.dropWhile isBlank = part := by
    cases part with
    | nil => rfl
    | cons first rest =>
      have notSpace := (digit_starts (digits first List.mem_cons_self)).1
      refine List.dropWhile_cons_of_neg ?_
      simp only [isSpace, Bool.or_eq_false_iff] at notSpace
      simp only [isBlank, Bool.or_eq_true, decide_eq_true_eq, not_or]
      refine ⟨by simpa using notSpace.1, ?_⟩
      rintro rfl
      simp at notSpace
  unfold trim
  rw [kept text digits, kept text.reverse (by simpa using digits),
    List.reverse_reverse]

/-- An id's own text names it, -/
theorem namesId_toString
    {id : Int}
    (positive : 0 ≤ id)
    (small : id < 2 ^ 31) :
    NamesId (bytes (toString id)) id := by
  have text : bytes (toString id) = decimal id.natAbs := by
    rw [Json.bytes_integer, integerText, if_neg (by omega)]
  have digits := Json.decimal_digits id.natAbs
  have value := Json.digitsValue_decimal id.natAbs
  obtain ⟨first, rest, shape, -⟩ := Json.decimal_head id.natAbs
  rw [text]
  have trimmed := trim_digits digits
  refine ⟨by rwa [trimmed], ?_, ?_, small⟩
  · rw [trimmed, shape]
    exact List.cons_ne_nil first rest
  · rw [trimmed, value]
    omega

/-- and so does the printed list. -/
theorem namesIds_printIds
    (nonempty : ids ≠ [])
    (positive : ∀ id ∈ ids, 0 ≤ id)
    (small : ∀ id ∈ ids, id < 2 ^ 31) :
    NamesIds (printIds ids) ids := by
  have texts : ∀ text ∈ ids.map fun id => bytes (toString id),
      (0x2c : UInt8) ∉ text := by
    intro text listed
    obtain ⟨id, isId, rfl⟩ := List.mem_map.mp listed
    rw [Json.bytes_integer, integerText,
      if_neg (Int.not_lt.mpr (positive id isId))]
    intro comma
    exact absurd (Json.decimal_digits id.natAbs _ comma) (by decide)
  have entries :
      (printIds ids).splitOn 0x2c = ids.map fun id => bytes (toString id) :=
    List.splitOn_intercalate 0x2c texts (by simpa using nonempty)
  have named :
      List.Forall₂ NamesId (ids.map fun id => bytes (toString id)) ids := by
    rw [List.forall₂_map_left_iff, List.forall₂_same]
    exact fun id isId => namesId_toString (positive id isId) (small id isId)
  have written : printIds ids ≠ [] := by
    intro none
    rw [none, List.splitOn_nil] at entries
    rw [← entries] at named
    obtain ⟨id, rest, names, -, -⟩ := List.forall₂_cons_left_iff.mp named
    exact names.nonempty rfl
  rw [NamesIds, if_neg written, entries]
  exact named

theorem forall₂_namesId_iff
    {ids : List Int} :
    List.Forall₂ NamesId entries ids ↔
      List.Forall₂ Taken entries ids ∧ ∀ entry ∈ entries, Plain entry := by
  induction entries generalizing ids with
  | nil => simp
  | cons entry rest ih =>
    cases ids with
    | nil => simp
    | cons id others =>
      rw [List.forall₂_cons, List.forall₂_cons, ih,
        namesId_iff, List.forall_mem_cons]
      tauto

/-- Named devices are numbered from zero, within an `int`. -/
theorem named_range
    (named : List.Forall₂ NamesId entries ids) :
    ∀ id ∈ ids, 0 ≤ id ∧ id < 2 ^ 31 := by
  induction named with
  | nil => simp
  | @cons entry id rest others names _ ih =>
    rw [List.forall_mem_cons]
    refine ⟨⟨?_, names.representable⟩, ih⟩
    rw [names.value]
    omega

theorem map_narrow
    (range : ∀ id ∈ ids, 0 ≤ id ∧ id < 2 ^ 31) :
    ids.map narrow = ids := by
  conv_rhs => rw [← List.map_id ids]
  exact List.map_congr_left fun id isId =>
    narrow_small (range id isId).1 (range id isId).2

/-- A list that says what its ids are is read. -/
theorem parseDeviceIds_of_names
    (names : NamesIds text ids) :
    parseDeviceIds text = .ok ids := by
  unfold NamesIds at names
  split at names
  · next empty =>
      rw [empty, names]
      rfl
  · next nonempty =>
      refine (parseEntries_eq_ok nonempty).mpr
        ⟨ids, (forall₂_namesId_iff.mp names).1, ?_⟩
      rw [map_narrow (named_range names), List.nil_append]

/-- What was read from a list that says it is printed and read again. -/
theorem parseDeviceIds_printIds
    (names : NamesIds text ids) :
    parseDeviceIds (printIds ids) = .ok ids := by
  unfold NamesIds at names
  split at names
  · rw [names]
    rfl
  · have range := named_range names
    refine parseDeviceIds_of_names (namesIds_printIds ?_
      (fun id isId => (range id isId).1) fun id isId => (range id isId).2)
    rintro rfl
    exact List.splitOn_ne_nil 0x2c text (List.forall₂_nil_right_iff.mp names)

/--
Nothing is read, or some entry is not taken as a non-negative number, or every entry
is plain: it starts with a digit and its value is an `int`.
-/
def SaysIds (text : Bytes) : Prop :=
  text = [] ∨
    (∃ entry ∈ text.splitOn 0x2c, ∀ value, ¬ Taken entry value) ∨
      ∀ entry ∈ text.splitOn 0x2c, Plain entry

theorem exists_taken
    (each : ∀ entry ∈ entries, ∃ value, Taken entry value) :
    ∃ values, List.Forall₂ Taken entries values := by
  induction entries with
  | nil => exact ⟨[], .nil⟩
  | cons entry rest ih =>
    rw [List.forall_mem_cons] at each
    obtain ⟨value, taken⟩ := each.1
    obtain ⟨values, others⟩ := ih each.2
    exact ⟨value :: values, .cons taken others⟩

theorem taken_of_forall₂
    {values : List Int}
    (taken : List.Forall₂ Taken entries values) :
    ∀ entry ∈ entries, ∃ value, Taken entry value := by
  induction taken with
  | nil => simp
  | @cons entry value rest others isTaken _ ih =>
    rw [List.forall_mem_cons]
    exact ⟨⟨value, isTaken⟩, ih⟩

/--
A device list means what it says unless all its entries are taken and one of them has
a sign, white space the trimming leaves, or a value beyond an `int`.
-/
theorem meansWhatItSays_iff (text : Bytes) :
    MeansWhatItSays text ↔ SaysIds text := by
  have roundTrip
      (reads : ∀ ids, parseDeviceIds text = .ok ids → NamesIds text ids) :
      MeansWhatItSays text :=
    ⟨fun ids => ⟨reads ids, parseDeviceIds_of_names⟩, fun ids read =>
      parseDeviceIds_printIds (reads ids read)⟩
  by_cases empty : text = []
  · subst empty
    refine iff_of_true (roundTrip fun ids read => ?_) (Or.inl rfl)
    have returned : parseDeviceIds [] = .ok [] := rfl
    rw [returned] at read
    exact (Except.ok.inj read).symm
  · have read (ids : List Int) :
        parseDeviceIds text = .ok ids ↔
          ∃ values, List.Forall₂ Taken (text.splitOn 0x2c) values ∧
            ids = values.map narrow := by
      unfold parseDeviceIds
      rw [parseEntries_eq_ok empty]
      simp only [List.nil_append]
    have named (ids : List Int) :
        NamesIds text ids ↔
          List.Forall₂ Taken (text.splitOn 0x2c) ids ∧
            ∀ entry ∈ text.splitOn 0x2c, Plain entry := by
      rw [NamesIds, if_neg empty]
      exact forall₂_namesId_iff
    constructor
    · rintro ⟨means, -⟩
      refine Or.inr ?_
      by_cases each : ∀ entry ∈ text.splitOn 0x2c, ∃ value, Taken entry value
      · obtain ⟨values, taken⟩ := exists_taken each
        have returned := (read _).mpr ⟨values, taken, rfl⟩
        exact Or.inr ((named _).mp ((means _).mp returned)).2
      · push Not at each
        exact Or.inl each
    · rintro (rfl | ⟨entry, isEntry, refused⟩ | plain)
      · exact absurd rfl empty
      · refine roundTrip fun ids returned => ?_
        obtain ⟨values, taken, -⟩ := (read ids).mp returned
        obtain ⟨value, isTaken⟩ := taken_of_forall₂ taken entry isEntry
        exact absurd isTaken (refused value)
      · refine roundTrip fun ids returned => ?_
        obtain ⟨values, taken, rfl⟩ := (read ids).mp returned
        have names := (named values).mpr ⟨taken, plain⟩
        rw [NamesIds, if_neg empty] at names
        rw [map_narrow (named_range names)]
        exact (named values).mpr ⟨taken, plain⟩

/-- An id beyond an `int` is read as another one. -/
theorem meansWhatItSays_fails :
    parseDeviceIds (bytes "4294967296") = .ok [0] ∧
      ¬ MeansWhatItSays (bytes "4294967296") := by
  have returned : parseDeviceIds (bytes "4294967296") = .ok [0] := by decide
  refine ⟨returned, fun means => ?_⟩
  have names := (means.1 [0]).mp returned
  rw [NamesIds, if_neg (by decide),
    show (bytes "4294967296").splitOn 0x2c = [bytes "4294967296"] by decide] at names
  obtain ⟨id, rest, entry, -, same⟩ := List.forall₂_cons_left_iff.mp names
  obtain ⟨rfl, -⟩ := List.cons.inj same
  exact absurd entry.value (by decide)

example : parseDeviceIds (bytes "0, 1,\t3") = .ok [0, 1, 3] := by decide

end Aeon.Parallel
