import Aeon.SwizzledLayout

namespace Aeon.SwizzledW4A16

open Aeon.Layout

/-!
# The readers of the swizzled layout

Two kernels read the weights back: the wave-per-rows GEMV walks a row block cell by
cell, and the grouped kernel fills a slab of shared memory, one cell to a thread.
Each is given here as the values its threads load, the products and the rounding
left out.  Against them stands the source matrix itself.  All four implementations
agree on it, as long as the slab reader's `int` cell number does not overflow.
-/

variable {Scale : Type}

/-! ## Decoding a word -/

/-- A half whose exponent field is 25 is `1024` and its mantissa; `1032` less. -/
def halfMinus1032 (bits : BitVec 16) : Option Int :=
  if bits >>> 10 = 25#16 then some (1024 + (bits &&& 0x3FF#16).toNat - 1032)
  else none

/-- The two halves `unpack2` takes out of a word. -/
def unpack2 (word : BitVec 32) (pair : Nat) : Option Int × Option Int :=
  let bits := ((word >>> (4 * pair)) &&& 0x000F000F#32) ||| 0x64006400#32
  (halfMinus1032 (bits.extractLsb' 0 16), halfMinus1032 (bits.extractLsb' 16 16))

theorem halfMinus1032_nibble (digit : BitVec 4) :
    halfMinus1032 (digit.setWidth 16 ||| 0x6400#16) =
      some ((digit.toNat : Int) - 8) := by
  revert digit
  decide

theorem getLsbD_nibbles
    (bit : Nat)
    (inside : bit < 32) :
    (0x000F000F#32).getLsbD bit = decide (bit % 16 < 4) := by
  interval_cases bit <;> rfl

theorem getLsbD_half
    (bit : Nat)
    (inside : bit < 32) :
    (0x64006400#32).getLsbD bit = (0x6400#16).getLsbD (bit % 16) := by
  interval_cases bit <;> rfl

theorem extract_masked
    (word : BitVec 32)
    (pair : Nat)
    {half : Nat}
    (half_lt : half < 2) :
    (((word >>> (4 * pair)) &&& 0x000F000F#32) ||| 0x64006400#32).extractLsb'
        (16 * half) 16 =
      ((nibble word (pair + 4 * half)).setWidth 4).setWidth 16 ||| 0x6400#16 := by
  apply BitVec.eq_of_getLsbD_eq
  intro bit inside
  have within : 16 * half + bit < 32 := by omega
  have at_bit : (16 * half + bit) % 16 = bit := by omega
  have place : 4 * (pair + 4 * half) + bit = 4 * pair + (16 * half + bit) := by
    omega
  simp only [BitVec.getLsbD_extractLsb', BitVec.getLsbD_or, BitVec.getLsbD_and,
    BitVec.getLsbD_ushiftRight, getLsbD_nibbles _ within, getLsbD_half _ within,
    BitVec.getLsbD_setWidth, getLsbD_nibble, at_bit, place, inside]
  by_cases small : bit < 4
  · simp [small]
  · simp [small]

theorem nibble_lt (word : BitVec 32) (position : Nat) :
    (nibble word position).toNat < 16 := by
  rw [nibble, BitVec.toNat_and]
  exact lt_of_le_of_lt Nat.and_le_right (by decide)

/-- The weight a nibble stands for: the zero point is 8. -/
def nibbleWeight (word : BitVec 32) (position : Nat) : Int :=
  ((nibble word position).toNat : Int) - 8

theorem unpack2_eq
    (word : BitVec 32)
    (pair : Nat) :
    unpack2 word pair =
      (some (nibbleWeight word pair), some (nibbleWeight word (pair + 4))) := by
  have low := extract_masked word pair (show 0 < 2 by decide)
  have high := extract_masked word pair (show 1 < 2 by decide)
  have truncated : ∀ position, ((nibble word position).setWidth 4).toNat =
      (nibble word position).toNat := fun position =>
    Nat.mod_eq_of_lt (nibble_lt word position)
  rw [unpack2]
  simp only [Nat.mul_zero, Nat.add_zero, Nat.mul_one] at low high
  rw [low, high, halfMinus1032_nibble, halfMinus1032_nibble, truncated, truncated]
  rfl

theorem unpack2_permute
    (word : BitVec 32)
    {pair : Nat}
    (inside : pair < 4) :
    unpack2 (permuteW4a16Word word) pair =
      (some (nibbleWeight word (2 * pair)),
        some (nibbleWeight word (2 * pair + 1))) := by
  rw [unpack2_eq, nibbleWeight, nibbleWeight, nibble_permute word (by omega),
    nibble_permute word (by omega)]
  interval_cases pair <;> rfl

/-! ## The kernels -/

/-- The four words of one `uint4` load. -/
def loadU4 (packed : Buffer (BitVec 32)) (cell : Nat) :
    Nat → Option (BitVec 32) :=
  fun word => packed (cell * 4 + word)

/-- A weight with its scale, at the column or the place it is used for. -/
structure Loaded (Scale : Type) where
  place : Nat
  weight : Option Int
  scale : Option Scale

/-- The 32 weights of four words in the order the kernels unpack them. -/
def unpackGroup
    (words : Nat → Option (BitVec 32))
    (scale : Option Scale)
    (place : Nat → Nat) : List (Loaded Scale) :=
  (List.range 4).flatMap fun word =>
    (List.range 4).flatMap fun pair =>
      let k := (word * 4 + pair) * 2
      [⟨place k, (words word).bind fun raw => (unpack2 raw pair).1, scale⟩,
        ⟨place (k + 1), (words word).bind fun raw => (unpack2 raw pair).2, scale⟩]

/-- The products of `swizzled_group_dot`, each at its column of the activation. -/
def swizzledGroupDot
    (words : Nat → Option (BitVec 32))
    (scale : Option Scale)
    (group : Nat) : List (Loaded Scale) :=
  unpackGroup words scale fun k => group * 32 + k

/-- The output row of a thread of the GEMV kernel. -/
def gemvRow (waves : Nat) (cfg : SwizzleCfg) (block thread : Nat) : Nat :=
  (block * waves + thread >>> 5) * cfg.rpw + (thread &&& 31) / cfg.lpr

/-- What one thread of `aeon_w4a16_swizzled_gemv_kernel` adds up. -/
def gemvThread
    (waves : Nat)
    (cfg : SwizzleCfg)
    (iters : Nat)
    (packed : Buffer (BitVec 32))
    (scale : Buffer Scale)
    (N block thread : Nat) : List (Loaded Scale) :=
  let lane := thread &&& 31
  let rowBlock := block * waves + thread >>> 5
  let slice := lane % cfg.lpr
  let blockOffset := rowBlock * iters * 32
  if gemvRow waves cfg block thread < N then
    ((List.range iters).foldl
      (fun state iteration =>
        let group := iteration * cfg.lpr + slice
        -- the next cell is loaded ahead of the current cell's products
        let next :=
          if iteration + 1 < iters then
            (loadU4 packed (blockOffset + (iteration + 1) * 32 + lane),
              scale (blockOffset + (iteration + 1) * 32 + lane))
          else state.2
        (state.1 ++ swizzledGroupDot state.2.1 state.2.2 group, next))
      ([], loadU4 packed (blockOffset + lane), scale (blockOffset + lane))).1
  else []

/-- An `int` as a `size_t`: 32 bits, sign-extended. -/
def intToSize (value : Nat) : Nat :=
  ((BitVec.ofNat 32 value).signExtend 64).toNat

/-- The cell a thread of the slab reader loads. -/
def slabStorage
    (cfg : SwizzleCfg)
    (iterations n group : Nat) : Nat :=
  let block := n / cfg.rpw
  let rowInBlock := n % cfg.rpw
  let slice := group % cfg.lpr
  let iteration := group / cfg.lpr
  let lane := rowInBlock * cfg.lpr + slice
  (intToSize (block * iterations + iteration) * 32 + lane) % 2 ^ 64

/-- What one thread of `grouped_dequant_w4a16_slab` stores into the tile. -/
def groupedDequantSlab
    (cfg : SwizzleCfg)
    (packed : Buffer (BitVec 32))
    (scale : Buffer Scale)
    (tileColumns nBase kBase iterations thread : Nat) : List (Loaded Scale) :=
  let nn := thread >>> 1
  let groupOffset := thread &&& 1
  let storage := slabStorage cfg iterations (nBase + nn) (kBase / 32 + groupOffset)
  unpackGroup (loadU4 packed storage) (scale storage) fun k =>
    groupOffset * 32 * tileColumns + nn + k * tileColumns

/-! ## The source matrix -/

/-- The weight of a row and a column. -/
def sourceWeight (packed : List (BitVec 32)) (K row column : Nat) : Option Int :=
  (packed[row * (K / 8) + column / 8]?).map fun word =>
    nibbleWeight word (column % 8)

/-- The scale of the column's group in a row. -/
def groupScale (scale : List Scale) (K row column : Nat) : Option Scale :=
  scale[row * (K / 32) + column / 32]?

/-- The weight and scale of a row and a column, to be used at a place. -/
def sourceLoaded
    (packed : List (BitVec 32))
    (scale : List Scale)
    (K row column place : Nat) : Loaded Scale :=
  ⟨place, sourceWeight packed K row column, groupScale scale K row column⟩

section Readers

variable {N K : Nat} {cfg : SwizzleCfg}
variable {packed : List (BitVec 32)} {scale : List Scale}

theorem range_group
    {Item : Type}
    (item : Nat → Item) :
    (List.range 32).map item =
      (List.range 4).flatMap fun word =>
        (List.range 4).flatMap fun pair =>
          [item ((word * 4 + pair) * 2), item ((word * 4 + pair) * 2 + 1)] :=
  rfl

theorem sourceWeight_eq
    (packed : List (BitVec 32))
    (K row group word : Nat)
    {pair half : Nat}
    (pair_lt : pair < 4)
    (half_lt : half < 2) :
    sourceWeight packed K row (group * 32 + ((word * 4 + pair) * 2 + half)) =
      (packed[row * (K / 8) + group * 4 + word]?).map fun raw =>
        nibbleWeight raw (2 * pair + half) := by
  have column : row * (K / 8) +
      (group * 32 + ((word * 4 + pair) * 2 + half)) / 8 =
        row * (K / 8) + group * 4 + word := by
    omega
  have position : (group * 32 + ((word * 4 + pair) * 2 + half)) % 8 =
      2 * pair + half := by
    omega
  rw [sourceWeight, column, position]

variable {row group : Nat}

theorem unpackGroup_eq
    {words : Nat → Option (BitVec 32)}
    (permuted : ∀ word < 4, words word =
      (packed[row * (K / 8) + group * 4 + word]?).map permuteW4a16Word)
    (place : Nat → Nat) :
    unpackGroup words (scale[row * (K / 32) + group]?) place =
      (List.range 32).map fun k =>
        sourceLoaded packed scale K row (group * 32 + k) (place k) := by
  rw [range_group]
  refine List.flatMap_congr fun word word_mem =>
    List.flatMap_congr fun pair pair_mem => ?_
  have word_lt := List.mem_range.mp word_mem
  have pair_lt := List.mem_range.mp pair_mem
  have first := sourceWeight_eq packed K row group word pair_lt
    (show 0 < 2 by decide)
  have second := sourceWeight_eq packed K row group word pair_lt
    (show 1 < 2 by decide)
  have first_group : (group * 32 + (word * 4 + pair) * 2) / 32 = group := by
    omega
  have second_group : (group * 32 + ((word * 4 + pair) * 2 + 1)) / 32 = group := by
    omega
  rw [Nat.add_zero] at first
  simp only [sourceLoaded, first, second, groupScale, first_group, second_group,
    permuted word word_lt]
  cases packed[row * (K / 8) + group * 4 + word]? with
  | none => rfl
  | some raw => simp [unpack2_permute raw pair_lt]

/-- The memory the converter and the C++ swizzle leave for the readers. -/
def written
    (packed : List (BitVec 32))
    (scale : List Scale)
    (N K : Nat)
    (cfg : SwizzleCfg) : Buffer (BitVec 32) × Buffer Scale :=
  swizzleW4a16 (.ofList packed) (.ofList scale) N K cfg

section

variable
    (valid : ValidSwizzle N K cfg)
    (row_lt : row < N)
    (group_lt : group < K / 32)

include valid row_lt group_lt

theorem loadU4_storageCell
    {word : Nat}
    (word_lt : word < 4) :
    loadU4 (written packed scale N K cfg).1 (storageCell K cfg row group) word =
      (packed[row * (K / 8) + group * 4 + word]?).map permuteW4a16Word := by
  have cell_lt := storageCell_lt valid row_lt group_lt
  have inside : storageCell K cfg row group * 4 + word < N * (K / 8) := by
    rw [valid.words_eq, ← Nat.mul_assoc]
    exact digit_lt cell_lt word_lt
  have home : sourceIndex K cfg (storageCell K cfg row group * 4 + word) =
      row * (K / 8) + group * 4 + word := by
    rw [sourceIndex, digit_div word_lt, digit_mod word_lt,
      sourceScale_storageCell valid group_lt, valid.words_eq]
    ring
  rw [loadU4, written, swizzle_packed valid]
  simp only [if_pos inside, home]
  rfl

theorem scale_storageCell :
    (written packed scale N K cfg).2 (storageCell K cfg row group) =
      scale[row * (K / 32) + group]? := by
  rw [written, swizzle_scale valid]
  simp only [if_pos (storageCell_lt valid row_lt group_lt),
    sourceScale_storageCell valid group_lt]
  rfl

theorem unpackGroup_storageCell
    (place : Nat → Nat) :
    unpackGroup
        (loadU4 (written packed scale N K cfg).1 (storageCell K cfg row group))
        ((written packed scale N K cfg).2 (storageCell K cfg row group)) place =
      (List.range 32).map fun k =>
        sourceLoaded packed scale K row (group * 32 + k) (place k) := by
  rw [scale_storageCell valid row_lt group_lt]
  exact unpackGroup_eq
    (fun _ word_lt => loadU4_storageCell valid row_lt group_lt word_lt) place

end

/-! ## The GEMV reader -/

theorem foldl_ahead
    {Cell Item : Type}
    (load : Nat → Cell)
    (use : Cell → Nat → List Item)
    (iters : Nat) :
    ((List.range iters).foldl
        (fun state iteration =>
          (state.1 ++ use state.2 iteration,
            if iteration + 1 < iters then load (iteration + 1) else state.2))
        ([], load 0)).1 =
      (List.range iters).flatMap fun iteration => use (load iteration) iteration := by
  -- after `count` rounds the state holds the cell of round `count`, if there is one
  have rounds : ∀ count ≤ iters, ∃ last,
      (List.range count).foldl
        (fun state iteration =>
          (state.1 ++ use state.2 iteration,
            if iteration + 1 < iters then load (iteration + 1) else state.2))
        ([], load 0) =
      ((List.range count).flatMap (fun iteration => use (load iteration) iteration),
        last) ∧ (count < iters → last = load count) := by
    intro count
    induction count with
    | zero => exact fun _ => ⟨load 0, rfl, fun _ => rfl⟩
    | succ count ih =>
      intro bound
      obtain ⟨last, state, current⟩ := ih (Nat.le_of_succ_le bound)
      refine ⟨if count + 1 < iters then load (count + 1) else last, ?_, ?_⟩
      · rw [List.range_succ, List.foldl_append, state, current bound]
        simp
      · intro more
        rw [if_pos more]
  obtain ⟨last, state, -⟩ := rounds iters (Nat.le_refl iters)
  rw [state]

section

variable
    (valid : ValidSwizzle N K cfg)

include valid

theorem gemvCell_eq
    (waves block thread iteration : Nat) :
    (block * waves + thread >>> 5) * (K / 32 / cfg.lpr) * 32 + iteration * 32 +
        (thread &&& 31) =
      storageCell K cfg (gemvRow waves cfg block thread)
        (iteration * cfg.lpr + (thread &&& 31) % cfg.lpr) := by
  have lane_lt : thread &&& 31 < cfg.rpw * cfg.lpr := by
    rw [valid.wave]
    exact Nat.lt_of_le_of_lt Nat.and_le_right (by decide)
  have row_lt : (thread &&& 31) / cfg.lpr < cfg.rpw :=
    Nat.div_lt_of_lt_mul (by rwa [Nat.mul_comm])
  have slice_lt : (thread &&& 31) % cfg.lpr < cfg.lpr :=
    Nat.mod_lt _ valid.lpr_pos
  rw [storageCell, gemvRow, digit_div row_lt, digit_mod row_lt,
    digit_div slice_lt, digit_mod slice_lt, Nat.div_add_mod']
  ring

theorem gemvThread_eq
    (packed : List (BitVec 32))
    (scale : List Scale)
    {waves block thread : Nat}
    (row_lt : gemvRow waves cfg block thread < N) :
    gemvThread waves cfg (K / 32 / cfg.lpr) (written packed scale N K cfg).1
        (written packed scale N K cfg).2 N block thread =
      (List.range (K / 32 / cfg.lpr)).flatMap fun iteration =>
        (List.range 32).map fun k =>
          let column :=
            (iteration * cfg.lpr + (thread &&& 31) % cfg.lpr) * 32 + k
          sourceLoaded packed scale K (gemvRow waves cfg block thread) column
            column := by
  let load (iteration : Nat) :=
    (loadU4 (written packed scale N K cfg).1
      ((block * waves + thread >>> 5) * (K / 32 / cfg.lpr) * 32 +
        iteration * 32 + (thread &&& 31)),
      (written packed scale N K cfg).2
        ((block * waves + thread >>> 5) * (K / 32 / cfg.lpr) * 32 +
          iteration * 32 + (thread &&& 31)))
  have ahead := foldl_ahead load
    (fun cell iteration => swizzledGroupDot cell.1 cell.2
      (iteration * cfg.lpr + (thread &&& 31) % cfg.lpr)) (K / 32 / cfg.lpr)
  have start : load 0 =
      (loadU4 (written packed scale N K cfg).1
        ((block * waves + thread >>> 5) * (K / 32 / cfg.lpr) * 32 +
          (thread &&& 31)),
        (written packed scale N K cfg).2
          ((block * waves + thread >>> 5) * (K / 32 / cfg.lpr) * 32 +
            (thread &&& 31))) := by
    simp [load]
  rw [start] at ahead
  rw [gemvThread, if_pos row_lt]
  refine Eq.trans ahead (List.flatMap_congr fun iteration inside => ?_)
  have group_lt : iteration * cfg.lpr + (thread &&& 31) % cfg.lpr < K / 32 := by
    rw [← valid.groups_eq]
    exact digit_lt (List.mem_range.mp inside) (Nat.mod_lt _ valid.lpr_pos)
  simp only [load, gemvCell_eq valid]
  exact unpackGroup_storageCell valid row_lt group_lt _

/-- Every weight of the matrix has a thread of the grid that reads it. -/
theorem gemv_covers
    {waves row column : Nat}
    (waves_pos : 0 < waves)
    (row_lt : row < N)
    (column_lt : column < K) :
    ∃ block < (N / cfg.rpw + waves - 1) / waves, ∃ thread < waves * 32,
      gemvRow waves cfg block thread = row ∧
        ∃ iteration < K / 32 / cfg.lpr, ∃ k < 32,
          (iteration * cfg.lpr + (thread &&& 31) % cfg.lpr) * 32 + k = column := by
  have lane_lt : row % cfg.rpw * cfg.lpr + column / 32 % cfg.lpr < 32 := by
    rw [← valid.wave]
    exact digit_lt (Nat.mod_lt _ valid.rpw_pos) (Nat.mod_lt _ valid.lpr_pos)
  have slice_lt : column / 32 % cfg.lpr < cfg.lpr := Nat.mod_lt _ valid.lpr_pos
  have wave_lt : row / cfg.rpw % waves < waves := Nat.mod_lt _ waves_pos
  have block_lt : row / cfg.rpw < N / cfg.rpw :=
    Nat.div_lt_of_lt_mul (by rwa [Nat.mul_comm, valid.rows_eq])
  have group_lt : column / 32 < K / 32 := by
    have groups := valid.groups
    omega
  have lane_eq : (row / cfg.rpw % waves * 32 +
      (row % cfg.rpw * cfg.lpr + column / 32 % cfg.lpr)) &&& 31 =
        row % cfg.rpw * cfg.lpr + column / 32 % cfg.lpr := by
    rw [show (31 : Nat) = 2 ^ 5 - 1 by decide, Nat.and_two_pow_sub_one_eq_mod]
    exact digit_mod lane_lt
  have wave_eq : (row / cfg.rpw % waves * 32 +
      (row % cfg.rpw * cfg.lpr + column / 32 % cfg.lpr)) >>> 5 =
        row / cfg.rpw % waves := by
    rw [Nat.shiftRight_eq_div_pow]
    exact digit_div lane_lt
  refine ⟨row / cfg.rpw / waves, ?_, row / cfg.rpw % waves * 32 +
    (row % cfg.rpw * cfg.lpr + column / 32 % cfg.lpr), digit_lt wave_lt lane_lt,
    ?_, column / 32 / cfg.lpr, ?_, column % 32, Nat.mod_lt _ (by decide), ?_⟩
  · refine (Nat.div_lt_iff_lt_mul waves_pos).mpr ?_
    have ceiling := Nat.div_add_mod' (N / cfg.rpw + waves - 1) waves
    have rest := Nat.mod_lt (N / cfg.rpw + waves - 1) waves_pos
    omega
  · rw [gemvRow, lane_eq, wave_eq, digit_div slice_lt, Nat.div_add_mod',
      Nat.div_add_mod']
  · exact Nat.div_lt_of_lt_mul (by rwa [Nat.mul_comm, valid.groups_eq])
  · rw [lane_eq, digit_mod slice_lt, Nat.div_add_mod', Nat.div_add_mod']

end

/-! ## The slab reader -/

theorem intToSize_of_lt
    {value : Nat}
    (small : value < 2 ^ 31) :
    intToSize value = value := by
  have positive : (BitVec.ofNat 32 value).msb = false := by
    rw [BitVec.msb_eq_decide]
    simp only [BitVec.toNat_ofNat, decide_eq_false_iff_not]
    omega
  rw [intToSize, BitVec.signExtend_eq_setWidth_of_msb_false positive,
    BitVec.toNat_setWidth, BitVec.toNat_ofNat]
  omega

/-- At `2 ^ 31` it is negative, and far past every buffer as a `size_t`. -/
theorem intToSize_overflow : intToSize (2 ^ 31) = 2 ^ 64 - 2 ^ 31 := by
  decide

theorem ValidSwizzle.weights_eq (valid : ValidSwizzle N K cfg) :
    N * K = N / cfg.rpw * (K / 32 / cfg.lpr) * 1024 := by
  have columns : K / 32 * 32 = K :=
    Nat.div_mul_cancel (Nat.dvd_of_mod_eq_zero valid.groups)
  calc N * K
      = N * (K / 32) * 32 := by rw [Nat.mul_assoc, columns]
    _ = N / cfg.rpw * (K / 32 / cfg.lpr) * 32 * 32 := by rw [valid.cells_eq]
    _ = N / cfg.rpw * (K / 32 / cfg.lpr) * 1024 := by rw [Nat.mul_assoc]

section

variable
    (valid : ValidSwizzle N K cfg)
    (fits : N * K ≤ 2 ^ 41)

include valid fits

/-- While the cell number fits an `int`, the slab reader loads the right cell. -/
theorem slabStorage_eq
    (row_lt : row < N)
    (group_lt : group < K / 32) :
    slabStorage cfg (K / 32 / cfg.lpr) row group = storageCell K cfg row group := by
  have lane_lt : row % cfg.rpw * cfg.lpr + group % cfg.lpr < 32 := by
    rw [← valid.wave]
    exact digit_lt (Nat.mod_lt _ valid.rpw_pos) (Nat.mod_lt _ valid.lpr_pos)
  have cell_lt : row / cfg.rpw * (K / 32 / cfg.lpr) + group / cfg.lpr <
      N / cfg.rpw * (K / 32 / cfg.lpr) :=
    digit_lt (Nat.div_lt_of_lt_mul (by rwa [Nat.mul_comm, valid.rows_eq]))
      (Nat.div_lt_of_lt_mul (by rwa [Nat.mul_comm, valid.groups_eq]))
  have small : row / cfg.rpw * (K / 32 / cfg.lpr) + group / cfg.lpr < 2 ^ 31 := by
    have weights := valid.weights_eq
    omega
  rw [slabStorage, intToSize_of_lt small, storageCell]
  exact Nat.mod_eq_of_lt (by omega)

theorem groupedDequantSlab_eq
    (packed : List (BitVec 32))
    (scale : List Scale)
    (tileColumns : Nat)
    {nBase kBase thread : Nat}
    (row_lt : nBase + thread >>> 1 < N)
    (group_lt : kBase / 32 + (thread &&& 1) < K / 32) :
    groupedDequantSlab cfg (written packed scale N K cfg).1
        (written packed scale N K cfg).2 tileColumns nBase kBase
        (K / 32 / cfg.lpr) thread =
      (List.range 32).map fun k =>
        sourceLoaded packed scale K (nBase + thread >>> 1)
          ((kBase / 32 + (thread &&& 1)) * 32 + k)
          ((thread &&& 1) * 32 * tileColumns + thread >>> 1 + k * tileColumns) := by
  rw [groupedDequantSlab, slabStorage_eq valid fits row_lt group_lt]
  exact unpackGroup_storageCell valid row_lt group_lt _

end

/-! ## The four implementations -/

/-- What the layout means to its four implementations, on one matrix. -/
structure LayoutAgrees
    (N K : Nat)
    (cfg : SwizzleCfg)
    (packed : List (BitVec 32))
    (scale : List Scale) : Prop where
  packed_once : (swizzlePackedStores (.ofList packed) N K cfg).map Prod.fst =
    List.range (N * (K / 8))
  scale_once : (swizzleScaleStores (.ofList scale) N K cfg).map Prod.fst =
    List.range (N * (K / 32))
  undone : unswizzleW4a16 (written packed scale N K cfg).1
    (written packed scale N K cfg).2 N K cfg = (.ofList packed, .ofList scale)
  converted_packed : ∃ words,
    convertPacked packed N K cfg.rpw cfg.lpr = some words ∧
      image (written packed scale N K cfg).1 (N * (K / 8)) = some words
  converted_scale : ∃ scales,
    convertScale scale N K cfg.rpw cfg.lpr = some scales ∧
      image (written packed scale N K cfg).2 (N * (K / 32)) = some scales
  gemv : ∀ waves > 0, ∀ row < N, ∀ column < K,
    (∃ block < (N / cfg.rpw + waves - 1) / waves, ∃ thread < waves * 32,
      gemvRow waves cfg block thread = row ∧
        sourceLoaded packed scale K row column column ∈
          gemvThread waves cfg (K / 32 / cfg.lpr) (written packed scale N K cfg).1
            (written packed scale N K cfg).2 N block thread) ∧
    ∀ block thread, gemvRow waves cfg block thread = row →
      ∀ loaded ∈ gemvThread waves cfg (K / 32 / cfg.lpr)
          (written packed scale N K cfg).1 (written packed scale N K cfg).2
          N block thread,
        loaded.place = column →
          loaded = sourceLoaded packed scale K row column column
  slab : ∀ tileColumns nBase kBase thread,
    nBase + thread >>> 1 < N → kBase / 32 + (thread &&& 1) < K / 32 →
      groupedDequantSlab cfg (written packed scale N K cfg).1
          (written packed scale N K cfg).2 tileColumns nBase kBase
          (K / 32 / cfg.lpr) thread =
        (List.range 32).map fun k =>
          sourceLoaded packed scale K (nBase + thread >>> 1)
            ((kBase / 32 + (thread &&& 1)) * 32 + k)
            ((thread &&& 1) * 32 * tileColumns + thread >>> 1 + k * tileColumns)

/-- With more than `2 ^ 31` cells, one of them has an `int` number that overflows. -/
theorem slabStorage_overflow
    (valid : ValidSwizzle N K cfg)
    (large : 2 ^ 41 < N * K) :
    ∃ row < N, ∃ group < K / 32,
      slabStorage cfg (K / 32 / cfg.lpr) row group = 2 ^ 64 - 2 ^ 36 := by
  have cells : 2 ^ 31 < N / cfg.rpw * (K / 32 / cfg.lpr) := by
    have weights := valid.weights_eq
    omega
  have iterations_pos : 0 < K / 32 / cfg.lpr :=
    Nat.pos_of_ne_zero fun none => by simp [none] at cells
  have block_lt : 2 ^ 31 / (K / 32 / cfg.lpr) < N / cfg.rpw :=
    Nat.div_lt_of_lt_mul (by rwa [Nat.mul_comm])
  refine ⟨2 ^ 31 / (K / 32 / cfg.lpr) * cfg.rpw, ?_,
    2 ^ 31 % (K / 32 / cfg.lpr) * cfg.lpr, ?_, ?_⟩
  · calc 2 ^ 31 / (K / 32 / cfg.lpr) * cfg.rpw
        < N / cfg.rpw * cfg.rpw := Nat.mul_lt_mul_of_pos_right block_lt valid.rpw_pos
      _ = N := valid.rows_eq
  · calc 2 ^ 31 % (K / 32 / cfg.lpr) * cfg.lpr
        < K / 32 / cfg.lpr * cfg.lpr :=
          Nat.mul_lt_mul_of_pos_right (Nat.mod_lt _ iterations_pos) valid.lpr_pos
      _ = K / 32 := valid.groups_eq
  · rw [slabStorage, Nat.mul_div_cancel _ valid.rpw_pos,
      Nat.mul_div_cancel _ valid.lpr_pos, Nat.mul_mod_left, Nat.mul_mod_left,
      Nat.div_add_mod', intToSize_overflow]
    simp

theorem sourceWeight_isSome
    (packed_length : packed.length = N * (K / 8))
    (valid : ValidSwizzle N K cfg)
    (row_lt : row < N)
    (group_lt : group < K / 32) :
    (sourceWeight packed K row (group * 32)).isSome := by
  have column_lt : group * 32 / 8 < K / 8 := by
    have words := valid.words_eq
    omega
  have inside : row * (K / 8) + group * 32 / 8 < packed.length := by
    rw [packed_length]
    exact digit_lt row_lt column_lt
  rw [sourceWeight, List.getElem?_eq_getElem inside]
  rfl

/-- Where an overflowed cell number points, nothing was written. -/
theorem loadU4_unwritten
    (packed : List (BitVec 32))
    (scale : List Scale)
    (valid : ValidSwizzle N K cfg) :
    loadU4 (written packed scale N K cfg).1 (2 ^ 64 - 2 ^ 36) 0 = none := by
  have outside : ¬ (2 ^ 64 - 2 ^ 36) * 4 + 0 < N * (K / 8) := by
    have product : N * (K / 8) ≤ 2 ^ 31 * 2 ^ 31 :=
      Nat.mul_le_mul valid.int_rows.le
        ((Nat.div_le_self K 8).trans valid.int_columns.le)
    omega
  rw [loadU4, written, swizzle_packed valid]
  exact if_neg outside

section

variable
    (valid : ValidSwizzle N K cfg)

include valid

/-- A matrix with more than `2 ^ 41` weights has a cell the slab reader misses. -/
theorem not_layoutAgrees
    (large : 2 ^ 41 < N * K)
    (packed_length : packed.length = N * (K / 8)) :
    ¬ LayoutAgrees N K cfg packed scale := by
  intro agrees
  obtain ⟨row, row_lt, group, group_lt, storage⟩ := slabStorage_overflow valid large
  have column : group * 32 / 32 + 0 = group := by omega
  have unwritten := loadU4_unwritten packed scale valid
  have stores := agrees.slab 0 row (group * 32) 0 row_lt (by
    change group * 32 / 32 + 0 < K / 32
    rwa [column])
  have heads := congrArg (fun stored => stored.head?.map Loaded.weight) stores
  have missed : (loadU4 (written packed scale N K cfg).1
      (slabStorage cfg (K / 32 / cfg.lpr) row (group * 32 / 32 + 0)) 0).bind
        (fun raw => (unpack2 raw 0).1) =
      sourceWeight packed K row ((group * 32 / 32 + 0) * 32 + 0) :=
    Option.some.inj heads
  rw [column, storage, unwritten, Nat.add_zero] at missed
  have present := sourceWeight_isSome packed_length valid row_lt group_lt
  rw [← missed] at present
  exact absurd present (by simp)

/-- Every destination word is filled from a word of the source. -/
theorem image_packed_isSome
    (packed_length : packed.length = N * (K / 8)) :
    (image (written packed scale N K cfg).1 (N * (K / 8))).isSome := by
  refine mapM_isSome fun index index_mem => ?_
  have inside := List.mem_range.mp index_mem
  have home := (destinationIndex_sourceIndex valid inside).1
  rw [written, swizzle_packed valid]
  simp [inside, Buffer.ofList, packed_length, home]

/-- Every destination scale is filled from a scale of the source. -/
theorem image_scale_isSome
    (scale_length : scale.length = N * (K / 32)) :
    (image (written packed scale N K cfg).2 (N * (K / 32))).isSome := by
  refine mapM_isSome fun cell cell_mem => ?_
  have inside := List.mem_range.mp cell_mem
  have home := (destinationCell_sourceScale valid inside).1
  rw [written, swizzle_scale valid]
  simp [inside, Buffer.ofList, scale_length, home]

theorem gemv_reads
    (packed : List (BitVec 32))
    (scale : List Scale)
    {waves row column : Nat}
    (waves_pos : 0 < waves)
    (row_lt : row < N)
    (column_lt : column < K) :
    (∃ block < (N / cfg.rpw + waves - 1) / waves, ∃ thread < waves * 32,
      gemvRow waves cfg block thread = row ∧
        sourceLoaded packed scale K row column column ∈
          gemvThread waves cfg (K / 32 / cfg.lpr) (written packed scale N K cfg).1
            (written packed scale N K cfg).2 N block thread) ∧
    ∀ block thread, gemvRow waves cfg block thread = row →
      ∀ loaded ∈ gemvThread waves cfg (K / 32 / cfg.lpr)
          (written packed scale N K cfg).1 (written packed scale N K cfg).2
          N block thread,
        loaded.place = column →
          loaded = sourceLoaded packed scale K row column column := by
  constructor
  · obtain ⟨block, block_lt, thread, thread_lt, rfl, iteration, iteration_lt, k,
      k_lt, rfl⟩ := gemv_covers valid waves_pos row_lt column_lt
    refine ⟨block, block_lt, thread, thread_lt, rfl, ?_⟩
    rw [gemvThread_eq valid packed scale row_lt]
    exact List.mem_flatMap.mpr ⟨iteration, List.mem_range.mpr iteration_lt,
      List.mem_map.mpr ⟨k, List.mem_range.mpr k_lt, rfl⟩⟩
  · rintro block thread rfl loaded loaded_mem rfl
    rw [gemvThread_eq valid packed scale row_lt] at loaded_mem
    obtain ⟨iteration, -, loaded_mem⟩ := List.mem_flatMap.mp loaded_mem
    obtain ⟨k, -, rfl⟩ := List.mem_map.mp loaded_mem
    rfl

end

/-- The layout means the same to its four implementations on every matrix of a
shape exactly when the slab reader's cell numbers fit an `int`. -/
theorem layout_agrees_iff
    {N K : Nat}
    {cfg : SwizzleCfg}
    (valid : ValidSwizzle N K cfg) :
    (∀ (packed : List (BitVec 32)) (scale : List (BitVec 16)),
        packed.length = N * (K / 8) → scale.length = N * (K / 32) →
          LayoutAgrees N K cfg packed scale) ↔
      N * K ≤ 2 ^ 41 := by
  constructor
  · intro agrees
    by_contra large
    have packed_length : (List.replicate (N * (K / 8)) (0#32)).length =
        N * (K / 8) := List.length_replicate
    exact not_layoutAgrees valid (Nat.lt_of_not_le large) packed_length
      (agrees _ (List.replicate (N * (K / 32)) (0#16)) packed_length
        List.length_replicate)
  · intro fits packed scale packed_length scale_length
    obtain ⟨words, words_eq⟩ := Option.isSome_iff_exists.mp
      (image_packed_isSome valid packed_length : (image (written packed scale N K
        cfg).1 (N * (K / 8))).isSome)
    obtain ⟨scales, scales_eq⟩ := Option.isSome_iff_exists.mp
      (image_scale_isSome valid scale_length : (image (written packed scale N K
        cfg).2 (N * (K / 32))).isSome)
    exact {
      packed_once := swizzlePackedStores_once valid _
      scale_once := swizzleScaleStores_once valid _
      undone := unswizzle_swizzle valid packed_length scale_length
      converted_packed :=
        ⟨words, (convertPacked_eq valid packed_length _).trans words_eq, words_eq⟩
      converted_scale :=
        ⟨scales, (convertScale_eq valid _ scale_length).trans scales_eq, scales_eq⟩
      gemv := fun _ waves_pos _ row_lt _ column_lt =>
        gemv_reads valid packed scale waves_pos row_lt column_lt
      slab := fun tileColumns _ _ _ row_lt group_lt =>
        groupedDequantSlab_eq valid fits packed scale tileColumns row_lt group_lt }

/-- The gate matrix of an expert. -/
theorem gate_matrix_agrees :
    ValidSwizzle 2048 4096 kCfgW13 ∧
      ∀ (packed : List (BitVec 32)) (scale : List (BitVec 16)),
        packed.length = 2048 * (4096 / 8) → scale.length = 2048 * (4096 / 32) →
          LayoutAgrees 2048 4096 kCfgW13 packed scale := by
  have valid : ValidSwizzle 2048 4096 kCfgW13 := by
    constructor <;> decide
  exact ⟨valid, (layout_agrees_iff valid).mpr (by decide)⟩

/-- A square matrix of `2 ^ 42` weights: its slab reader leaves the buffer. -/
theorem square_matrix_overflows :
    ValidSwizzle (2 ^ 21) (2 ^ 21) kCfgW13 ∧
      ¬ LayoutAgrees (2 ^ 21) (2 ^ 21) kCfgW13
        (List.replicate (2 ^ 21 * (2 ^ 21 / 8)) (0#32))
        (List.replicate (2 ^ 21 * (2 ^ 21 / 32)) (0#16)) := by
  have valid : ValidSwizzle (2 ^ 21) (2 ^ 21) kCfgW13 := by
    constructor <;> decide
  exact ⟨valid, not_layoutAgrees valid (by norm_num) List.length_replicate⟩

end Readers

end Aeon.SwizzledW4A16
