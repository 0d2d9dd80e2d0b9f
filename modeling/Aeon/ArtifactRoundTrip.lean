import Aeon.ArtifactContainer
import Aeon.PythonJsonSource

namespace Aeon.Artifact

open Json
open LittleEndian
open Memory (u64 ExpertFormat)
open List (append_assoc length_append mapM_cons map_cons mem_cons_of_mem mem_cons_self
  not_mem_nil)

/-!
# What the loader returns

Whatever the three files hold, a range the loader hands out lies inside its file,
and an expert's range starts and ends at sector boundaries.  For the files the
converter writes the loader gives every tensor and every expert its own bytes back.
-/

/-! ## Every range is inside its file -/

/-- What the loader promises of the ranges it returns. -/
structure RangesSound
    (artifact : ArtifactSpec)
    (files : ArtifactFiles)
    (loader : AeonModelLoader) : Prop where
  tensors : ∀ name tensor, loader.getTensor name = .ok tensor →
    tensor.data + tensor.byteSize ≤ files.dense.length
  experts : ∀ layerId expertId location,
    loader.getExpertLocation layerId expertId = .ok location →
      location.fileOffset % artifact.expertSectorSize = 0 ∧
        location.byteLength % artifact.expertSectorSize = 0 ∧
        location.fileOffset + location.byteLength ≤ files.experts.length

section Ranges

variable {indefinite : Int} {payloadBase payloadSize : Nat}

theorem parseDenseEntry_range
    {entry : JsonValue}
    {name : Bytes}
    {tensor : LoadedTensor}
    (parsed : parseDenseEntry indefinite payloadBase payloadSize entry =
      .ok (name, tensor)) :
    tensor.data + tensor.byteSize ≤ payloadBase + payloadSize := by
  unfold parseDenseEntry at parsed
  obtain ⟨read, -, parsed⟩ := bind_eq_ok.mp parsed
  obtain ⟨offset, -, parsed⟩ := bind_eq_ok.mp parsed
  obtain ⟨size, -, parsed⟩ := bind_eq_ok.mp parsed
  split at parsed
  · exact nomatch parsed
  · split at parsed
    · exact nomatch parsed
    next inside =>
      obtain ⟨dtype, -, parsed⟩ := bind_eq_ok.mp parsed
      obtain ⟨dimensions, -, parsed⟩ := bind_eq_ok.mp parsed
      obtain ⟨shape, -, parsed⟩ := bind_eq_ok.mp parsed
      have same := (Prod.mk.inj (Except.ok.inj parsed)).2
      subst same
      simp only
      omega

theorem parseDenseEntries_range
    {entries : List JsonValue}
    {tensors result : List (Bytes × LoadedTensor)}
    (before : ∀ member ∈ tensors,
      member.2.data + member.2.byteSize ≤ payloadBase + payloadSize)
    (parsed : parseDenseEntries indefinite payloadBase payloadSize tensors entries =
      .ok result) :
    ∀ member ∈ result,
      member.2.data + member.2.byteSize ≤ payloadBase + payloadSize := by
  induction entries generalizing tensors with
  | nil =>
    have same := Except.ok.inj parsed
    exact same ▸ before
  | cons entry rest ih =>
    unfold parseDenseEntries at parsed
    obtain ⟨⟨name, tensor⟩, read, parsed⟩ := bind_eq_ok.mp parsed
    simp only at parsed
    split at parsed
    · exact nomatch parsed
    · refine ih (fun member listed => ?_) parsed
      rcases List.mem_append.mp listed with old | new
      · exact before member old
      · rw [List.mem_singleton.mp new]
        exact parseDenseEntry_range read

theorem openDense_range
    {mapping : Option String}
    {densePath : String}
    {file : Bytes}
    {expectedVersion : Nat}
    {tensors : List (Bytes × LoadedTensor)}
    (opened : openDense indefinite mapping densePath file expectedVersion = .ok tensors) :
    ∀ member ∈ tensors, member.2.data + member.2.byteSize ≤ file.length := by
  unfold openDense at opened
  obtain ⟨_, -, opened⟩ := bind_eq_ok.mp opened
  split at opened
  · exact nomatch opened
  split at opened
  · exact nomatch opened
  split at opened
  · exact nomatch opened
  simp only at opened
  split at opened
  · exact nomatch opened
  split at opened
  · exact nomatch opened
  next inside =>
    obtain ⟨⟨parsed, count⟩, read, opened⟩ := bind_eq_ok.mp opened
    simp only at opened
    split at opened
    · exact nomatch opened
    · obtain rfl := Except.ok.inj opened
      unfold parseDenseDirectory at read
      obtain ⟨value, -, read⟩ := bind_eq_ok.mp read
      obtain ⟨entries, -, read⟩ := bind_eq_ok.mp read
      obtain ⟨loaded, loop, read⟩ := bind_eq_ok.mp read
      obtain rfl := (Prod.mk.inj (Except.ok.inj read)).1
      have ranges := parseDenseEntries_range
        (fun _ listed => absurd listed not_mem_nil) loop
      rwa [Nat.add_sub_of_le (Nat.le_of_not_lt inside)] at ranges

end Ranges

theorem openExperts_format
    {mapping : Option String}
    {expertsPath : String}
    {experts index : Bytes}
    {expectedVersion expertSectorSize expectedPayloadBytes version : Nat}
    {format : ExpertFormat}
    {offsets : List Nat}
    (opened : openExperts mapping expertsPath experts index expectedVersion
      expertSectorSize expectedPayloadBytes = .ok (version, format, offsets)) :
    format.sectorSize = expertSectorSize ∧
      format.payloadBytes % expertSectorSize = 0 := by
  unfold openExperts at opened
  split at opened
  · exact nomatch opened
  split at opened
  · exact nomatch opened
  split at opened
  · exact nomatch opened
  split at opened
  · exact nomatch opened
  simp only at opened
  split at opened
  · exact nomatch opened
  obtain ⟨_, valid, opened⟩ := bind_eq_ok.mp opened
  split at opened
  · exact nomatch opened
  split at opened
  · exact nomatch opened
  obtain ⟨read, -, opened⟩ := bind_eq_ok.mp opened
  obtain ⟨_, -, opened⟩ := bind_eq_ok.mp opened
  obtain rfl := (Prod.mk.inj (Prod.mk.inj (Except.ok.inj opened)).2).1
  refine ⟨rfl, ?_⟩
  unfold validateCatalog at valid
  split at valid
  · exact nomatch valid
  next whole =>
    simp only at whole
    exact Classical.byContradiction fun partly => whole (.inr (.inr (.inr partly)))

variable {loader : AeonModelLoader}

theorem getExpertLocation_range
    {layerId expertId : Nat}
    {location : ExpertLocation}
    (found : loader.getExpertLocation layerId expertId = .ok location) :
    location.fileOffset % loader.expertFormat.sectorSize = 0 ∧
      location.byteLength = loader.expertFormat.payloadBytes ∧
      location.fileOffset + location.byteLength ≤ loader.expertsFileSize := by
  unfold AeonModelLoader.getExpertLocation at found
  simp only at found
  split at found
  · exact nomatch found
  split at found
  · exact nomatch found
  next sound =>
    obtain rfl := Except.ok.inj found
    simp only [not_or, not_not] at sound
    obtain ⟨-, aligned, inside, long⟩ := sound
    refine ⟨aligned, rfl, ?_⟩
    simp only
    omega

theorem getTensor_listed
    {name : Bytes}
    {loaded : LoadedTensor}
    (found : loader.getTensor name = .ok loaded) :
    (name, loaded) ∈ loader.denseTensors := by
  unfold AeonModelLoader.getTensor at found
  split at found
  · exact nomatch found
  next tensor listed =>
    obtain rfl := Except.ok.inj found
    obtain ⟨before, after, same, -⟩ := List.lookup_eq_some_iff.mp listed
    rw [same]
    simp

theorem openModel_sound
    {indefinite : Int}
    {mappings : Mappings}
    {modelDir : String}
    {artifact : ArtifactSpec}
    {files : ArtifactFiles}
    (opened : openModel indefinite mappings modelDir artifact files = .ok loader) :
    RangesSound artifact files loader := by
  unfold openModel at opened
  split at opened
  · exact nomatch opened
  obtain ⟨tensors, dense, opened⟩ := bind_eq_ok.mp opened
  obtain ⟨⟨version, format, offsets⟩, experts, opened⟩ := bind_eq_ok.mp opened
  obtain rfl := Except.ok.inj opened
  obtain ⟨sector, whole⟩ := openExperts_format experts
  constructor
  · intro name tensor found
    exact openDense_range dense (name, tensor) (getTensor_listed found)
  · intro layerId expertId location found
    obtain ⟨aligned, length, inside⟩ := getExpertLocation_range found
    simp only at aligned length inside
    rw [sector] at aligned
    rw [length] at inside ⊢
    exact ⟨aligned, whole, inside⟩

/-! ## The directory -/

/-- The bytes of the tensors in a list. -/
def totalBytes (tensors : List DenseTensor) : Nat :=
  (tensors.map fun tensor => tensor.data.length).sum

/-- What the loader makes of the tensors laid out from `offset` on. -/
def loadedTensors (payloadBase : Nat) :
    Nat → List DenseTensor → List (Bytes × LoadedTensor)
  | _, [] => []
  | offset, tensor :: rest =>
    (Utf8.encode tensor.name,
      { data := payloadBase + offset
        byteSize := tensor.data.length
        dtype := Utf8.encode tensor.dtype
        shape := tensor.shape.map Int.ofNat }) ::
      loadedTensors payloadBase (offset + tensor.data.length) rest

/-- The dimensions are exact in a double. -/
def SmallShapes (tensors : List DenseTensor) : Prop :=
  ∀ tensor ∈ tensors, ∀ dimension ∈ tensor.shape, dimension < 2 ^ 53

theorem elementsExact_ints
    {dimensions : List Nat}
    (small : ∀ dimension ∈ dimensions, dimension < 2 ^ 53) :
    ElementsExact (dimensions.map .int) := by
  induction dimensions with
  | nil => trivial
  | cons dimension rest ih =>
    exact ⟨small dimension mem_cons_self, ih
      fun other listed => small other (mem_cons_of_mem _ listed)⟩

theorem denseDirectory_exact
    {tensors : List DenseTensor}
    {offset : Nat}
    (shapes : SmallShapes tensors)
    (small : offset + totalBytes tensors < 2 ^ 53) :
    ElementsExact (denseDirectory offset tensors) := by
  induction tensors generalizing offset with
  | nil => trivial
  | cons tensor rest ih =>
    simp only [totalBytes, map_cons, List.sum_cons] at small
    refine ⟨⟨⟨trivial, ?_, ?_, trivial, ?_, trivial⟩, ?_⟩, ?_⟩
    · exact (by omega : offset < 2 ^ 53)
    · exact (by omega : tensor.data.length < 2 ^ 53)
    · exact elementsExact_ints (shapes tensor mem_cons_self)
    · change ["name".toList, "offset".toList, "size".toList, "dtype".toList,
        "shape".toList].Nodup
      decide
    · refine ih
        (fun other listed => shapes other (mem_cons_of_mem _ listed)) ?_
      simp only [totalBytes]
      omega

section Entry

variable (offset : Nat) (tensor : DenseTensor)

theorem get_name :
    (directoryEntry offset tensor).toJson.get "name" =
      .ok (.string (Utf8.encode tensor.name)) := rfl

theorem get_offset :
    (directoryEntry offset tensor).toJson.get "offset" = .ok (.number offset) := rfl

theorem get_size :
    (directoryEntry offset tensor).toJson.get "size" =
      .ok (.number tensor.data.length) := rfl

theorem get_dtype :
    (directoryEntry offset tensor).toJson.get "dtype" =
      .ok (.string (Utf8.encode tensor.dtype)) := rfl

theorem get_shape :
    (directoryEntry offset tensor).toJson.get "shape" =
      .ok (.array (elementsToJson (tensor.shape.map .int))) := rfl

end Entry

theorem parseShape_ints
    (indefinite : Int)
    {dimensions : List Nat}
    (small : ∀ dimension ∈ dimensions, dimension < 2 ^ 53) :
    parseShape indefinite (elementsToJson (dimensions.map .int)) =
      .ok (dimensions.map Int.ofNat) := by
  induction dimensions with
  | nil => rfl
  | cons dimension rest ih =>
    have read := JsonValue.asInt64_natCast indefinite
      (Nat.lt_trans (small dimension mem_cons_self) (by decide))
    have others := ih
      fun other listed => small other (mem_cons_of_mem _ listed)
    simp only [map_cons, elementsToJson, PythonValue.toJson, parseShape, read,
      readJson, ok_bind, others]
    rw [if_neg (by omega)]
    rfl

section

variable
    (indefinite : Int)
    (payloadBase : Nat)
    {payloadSize offset : Nat}

include indefinite payloadBase

theorem parseDenseEntry_directoryEntry
    {tensor : DenseTensor}
    (shape : ∀ dimension ∈ tensor.shape, dimension < 2 ^ 53)
    (small : offset + tensor.data.length < 2 ^ 53)
    (inside : offset + tensor.data.length ≤ payloadSize) :
    parseDenseEntry indefinite payloadBase payloadSize
        (directoryEntry offset tensor).toJson =
      .ok (Utf8.encode tensor.name,
        { data := payloadBase + offset
          byteSize := tensor.data.length
          dtype := Utf8.encode tensor.dtype
          shape := tensor.shape.map Int.ofNat }) := by
  have offsetRead := JsonValue.asInt64_natCast indefinite
    (show offset < 2 ^ 63 by omega)
  have sizeRead := JsonValue.asInt64_natCast indefinite
    (show tensor.data.length < 2 ^ 63 by omega)
  unfold parseDenseEntry
  simp only [get_name, get_offset, get_size, get_dtype, get_shape, ok_bind,
    JsonValue.asString, JsonValue.asArray, readJson, offsetRead, sizeRead,
    parseShape_ints indefinite shape]
  rw [if_neg (by omega), if_neg (by simp only [Int.toNat_natCast]; omega)]
  rfl

/-- The whole directory is read back. -/
theorem parseDenseEntries_directory
    {tensors : List DenseTensor}
    (shapes : SmallShapes tensors)
    (distinct : (tensors.map DenseTensor.name).Nodup)
    (small : offset + totalBytes tensors < 2 ^ 53)
    (inside : offset + totalBytes tensors ≤ payloadSize)
    (before : List (Bytes × LoadedTensor))
    (fresh : ∀ tensor ∈ tensors, before.lookup (Utf8.encode tensor.name) = none) :
    parseDenseEntries indefinite payloadBase payloadSize before
        (elementsToJson (denseDirectory offset tensors)) =
      .ok (before ++ loadedTensors payloadBase offset tensors) := by
  induction tensors generalizing offset before with
  | nil => simp [denseDirectory, elementsToJson, parseDenseEntries, loadedTensors]
  | cons tensor rest ih =>
    simp only [totalBytes, map_cons, List.sum_cons] at small inside
    have unique := List.nodup_cons.mp distinct
    have entry := parseDenseEntry_directoryEntry indefinite payloadBase
      (shapes tensor mem_cons_self)
      (show offset + tensor.data.length < 2 ^ 53 by omega)
      (show offset + tensor.data.length ≤ payloadSize by omega)
    have missing := fresh tensor mem_cons_self
    rw [denseDirectory, elementsToJson, parseDenseEntries, entry, ok_bind]
    simp only [missing, Option.isSome_none, Bool.false_eq_true, if_false]
    rw [ih
      (fun other listed => shapes other (mem_cons_of_mem _ listed)) unique.2
      (by simp only [totalBytes]; omega) (by simp only [totalBytes]; omega)]
    · simp [loadedTensors]
    · intro other listed
      refine lookup_append_of_ne _ (fresh other (mem_cons_of_mem _ listed)) ?_
      intro same
      exact unique.1 (List.mem_map.mpr ⟨other, listed, same⟩)

end

/-- The bytes a tensor's range covers are its own. -/
theorem slice_append
    (front middle back : Bytes) :
    slice (front ++ (middle ++ back)) front.length middle.length = middle := by
  simp [slice]

theorem loadedTensors_lookup
    {tensors : List DenseTensor}
    (distinct : (tensors.map DenseTensor.name).Nodup)
    (front back : Bytes)
    {tensor : DenseTensor}
    (listed : tensor ∈ tensors)
    (payloadBase offset : Nat)
    (placed : front.length = payloadBase + offset) :
    ∃ loaded,
      (loadedTensors payloadBase offset tensors).lookup
          (Utf8.encode tensor.name) = some loaded ∧
        loaded.dtype = Utf8.encode tensor.dtype ∧
        loaded.shape = tensor.shape.map Int.ofNat ∧
        slice (front ++ (tensors.flatMap DenseTensor.data ++ back)) loaded.data
          loaded.byteSize = tensor.data := by
  induction tensors generalizing front offset with
  | nil => exact absurd listed not_mem_nil
  | cons first rest ih =>
    have unique := List.nodup_cons.mp distinct
    by_cases same : tensor = first
    · subst same
      refine ⟨_, by rw [loadedTensors, List.lookup_cons_self], rfl, rfl, ?_⟩
      simp only [List.flatMap_cons, append_assoc, ← placed]
      exact slice_append front tensor.data _
    · have later := (List.mem_cons.mp listed).resolve_left same
      have different : Utf8.encode tensor.name ≠ Utf8.encode first.name := by
        intro sameName
        exact unique.1 (List.mem_map.mpr
          ⟨tensor, later, Utf8.encode_injective sameName⟩)
      obtain ⟨loaded, found, dtype, shape, bytes⟩ := ih unique.2
        (front ++ first.data) later (offset + first.data.length)
        (by rw [length_append, placed]; omega)
      refine ⟨loaded, ?_, dtype, shape, ?_⟩
      · rw [loadedTensors, List.lookup_cons, beq_eq_false_iff_ne.mpr different]
        exact found
      · rw [← bytes]
        simp only [List.flatMap_cons, append_assoc]

/-- Two ranges share no byte. -/
def Apart (oneStart oneLength otherStart otherLength : Nat) : Prop :=
  oneStart + oneLength ≤ otherStart ∨ otherStart + otherLength ≤ oneStart

theorem loadedTensors_ordered
    (payloadBase offset : Nat)
    (tensors : List DenseTensor) :
    (loadedTensors payloadBase offset tensors).Pairwise
        (fun one other => one.2.data + one.2.byteSize ≤ other.2.data) ∧
      ∀ member ∈ loadedTensors payloadBase offset tensors,
        payloadBase + offset ≤ member.2.data := by
  induction tensors generalizing offset with
  | nil => exact ⟨.nil, fun _ listed => absurd listed not_mem_nil⟩
  | cons tensor rest ih =>
    obtain ⟨ordered, after⟩ :=
      ih (offset + tensor.data.length)
    refine ⟨List.pairwise_cons.mpr ⟨fun member listed => ?_, ordered⟩,
      fun member listed => ?_⟩
    · have := after member listed
      simp only
      omega
    · rcases List.mem_cons.mp listed with rfl | later
      · exact Nat.le_refl _
      · have := after member later
        omega

theorem loadedTensors_apart
    {payloadBase offset : Nat}
    {tensors : List DenseTensor}
    {one other : Bytes × LoadedTensor}
    (oneListed : one ∈ loadedTensors payloadBase offset tensors)
    (otherListed : other ∈ loadedTensors payloadBase offset tensors)
    (different : one.1 ≠ other.1) :
    Apart one.2.data one.2.byteSize other.2.data other.2.byteSize := by
  have ordered := (loadedTensors_ordered payloadBase offset tensors).1
  obtain ⟨first, oneAt, rfl⟩ := List.mem_iff_getElem.mp oneListed
  obtain ⟨second, otherAt, rfl⟩ := List.mem_iff_getElem.mp otherListed
  rcases Nat.lt_trichotomy first second with before | same | after
  · exact .inl (List.pairwise_iff_getElem.mp ordered first second oneAt otherAt before)
  · subst same
    exact absurd rfl different
  · exact .inr (List.pairwise_iff_getElem.mp ordered second first otherAt oneAt after)

/-! ## The dense container -/

theorem denseMagic_length : denseMagic.length = 12 := by decide

theorem denseDirectory_count
    (offset : Nat)
    (tensors : List DenseTensor) :
    (elementsToJson (denseDirectory offset tensors)).length = tensors.length := by
  induction tensors generalizing offset with
  | nil => rfl
  | cons tensor rest ih =>
    simp [denseDirectory, elementsToJson, ih]

/-- The parts of a written dense container. -/
structure DenseLayout
    (tensors : List DenseTensor)
    (dense : Bytes) : Prop where
  count : (sortedByName tensors).length < 2 ^ 32
  directory : (dumps 0 (.list (denseDirectory 0 (sortedByName tensors)))).length <
    2 ^ 64
  bytes : dense =
    denseMagic ++ (pack 4 denseFormatVersion ++
      (pack 4 (sortedByName tensors).length ++
        (pack 8
            (dumps 0 (.list (denseDirectory 0 (sortedByName tensors)))).length ++
          (dumps 0 (.list (denseDirectory 0 (sortedByName tensors))) ++
            (List.replicate
                (sectorPadding (28 + (dumps 0
                  (.list (denseDirectory 0 (sortedByName tensors)))).length)) 0 ++
              (sortedByName tensors).flatMap DenseTensor.data)))))

theorem convertDenseTensors_layout
    {tensors : List DenseTensor}
    {dense : Bytes}
    (written : convertDenseTensors tensors = some dense) :
    DenseLayout tensors dense := by
  unfold convertDenseTensors packDenseHeader at written
  simp only at written
  split at written
  next fits =>
    have same := Option.some.inj written
    refine ⟨fits.1, fits.2, ?_⟩
    rw [← same]
    simp only [append_assoc, length_append, pack_length,
      denseMagic_length]
    rw [show ∀ length, 12 + (4 + (4 + (8 + length))) = 28 + length from
      fun _ => by omega]
  next => exact nomatch written

theorem openDense_converted
    (indefinite : Int)
    (densePath : String)
    {tensors : List DenseTensor}
    {dense : Bytes}
    (layout : DenseLayout tensors dense)
    (short : dense.length < 2 ^ 63)
    (shapes : SmallShapes (sortedByName tensors))
    (distinct : ((sortedByName tensors).map DenseTensor.name).Nodup)
    (small : totalBytes (sortedByName tensors) < 2 ^ 53) :
    ∃ front,
      dense = front ++ ((sortedByName tensors).flatMap DenseTensor.data ++ []) ∧
        openDense indefinite none densePath dense denseFormatVersion =
          .ok (loadedTensors front.length 0 (sortedByName tensors)) := by
  obtain ⟨count, fits, shape⟩ := layout
  generalize sortedByName tensors = sorted at *
  generalize text_eq : dumps 0 (.list (denseDirectory 0 sorted)) = text at *
  generalize data_eq : sorted.flatMap DenseTensor.data = data at *
  generalize padding_eq : sectorPadding (28 + text.length) = padding at *
  have parsed : parse text =
      .ok (.array (elementsToJson (denseDirectory 0 sorted))) := by
    rw [← text_eq]
    exact parse_dumps (denseDirectory_exact shapes (by omega) :
      (PythonValue.list (denseDirectory 0 sorted)).Exact)
  have dataLength : data.length = totalBytes sorted := by
    rw [← data_eq, List.length_flatMap]
    rfl
  have length : dense.length = 28 + text.length + padding + data.length := by
    rw [shape]
    simp only [length_append, List.length_replicate, pack_length,
      denseMagic_length]
    omega
  have magic : dense.take 12 = denseMagic := by
    rw [shape]
    exact List.take_left' denseMagic_length
  have version : readAt 4 dense 12 = denseFormatVersion := by
    rw [shape, ← denseMagic_length]
    exact readAt_pack (by decide) _ _
  have counted : readAt 4 dense 16 = sorted.length := by
    rw [shape, ← append_assoc denseMagic,
      show 16 = (denseMagic ++ pack 4 denseFormatVersion).length by
        simp [denseMagic_length]]
    exact readAt_pack (by omega) _ _
  have directoryLength : readAt 8 dense 20 = text.length := by
    rw [shape, ← append_assoc denseMagic, ← append_assoc (denseMagic ++ _),
      show 20 = (denseMagic ++ pack 4 denseFormatVersion ++
        pack 4 sorted.length).length by simp [denseMagic_length]]
    exact readAt_pack (by omega) _ _
  have directory : (dense.drop 28).take text.length = text := by
    rw [shape, ← append_assoc denseMagic, ← append_assoc (denseMagic ++ _),
      ← append_assoc (denseMagic ++ _ ++ _),
      show 28 = (denseMagic ++ pack 4 denseFormatVersion ++ pack 4 sorted.length ++
        pack 8 text.length).length by simp [denseMagic_length]]
    rw [List.drop_left]
    exact List.take_left
  have start : u64 (u64 (28 + text.length) + sectorPadding (u64 (28 + text.length))) =
      28 + text.length + padding := by
    have unwrapped : u64 (28 + text.length) = 28 + text.length :=
      Nat.mod_eq_of_lt (by omega)
    rw [unwrapped, padding_eq]
    exact Nat.mod_eq_of_lt (by omega)
  have entries := parseDenseEntries_directory indefinite (28 + text.length + padding)
    shapes distinct (show 0 + totalBytes sorted < 2 ^ 53 by omega)
    (show 0 + totalBytes sorted ≤ dense.length - (28 + text.length + padding) by
      omega) [] (fun _ _ => rfl)
  refine ⟨denseMagic ++ pack 4 denseFormatVersion ++ pack 4 sorted.length ++
    pack 8 text.length ++ text ++ List.replicate padding 0, ?_, ?_⟩
  · rw [shape]
    simp
  · have frontLength : (denseMagic ++ pack 4 denseFormatVersion ++
        pack 4 sorted.length ++ pack 8 text.length ++ text ++
          List.replicate padding 0).length = 28 + text.length + padding := by
      simp only [length_append, List.length_replicate, pack_length,
        denseMagic_length]
    unfold openDense parseDenseDirectory
    rw [frontLength, mapFile_eq (by omega), ok_bind, if_neg (by omega),
      if_neg (by simp [magic]),
      if_neg (by simp [version])]
    simp only [counted, directoryLength, start, directory, parsed, readJson, ok_bind,
      JsonValue.asArray, entries, denseDirectory_count, ne_eq, not_true, if_false,
      List.nil_append]
    rw [if_neg (by omega), if_neg (by omega)]

/-! ## The experts -/

theorem expertMagic_length : expertMagic.length = 12 := by decide

variable {Value Result : Type}
variable {values : List Value}

theorem mapM_ok
    {step : Value → Except LoaderError Result}
    {result : Value → Result}
    (returns : ∀ value ∈ values, step value = .ok (result value)) :
    values.mapM step = .ok (values.map result) := by
  induction values with
  | nil => rfl
  | cons first rest ih =>
    rw [mapM_cons, returns first mem_cons_self, ok_bind,
      ih fun value listed =>
        returns value (mem_cons_of_mem _ listed)]
    rfl

section

variable
    {check : Value → Prop}
    [DecidablePred check]

/-- Steps that raise unless a condition holds, and all returned. -/
theorem mapM_checked
    {result : Value → Result}
    {results : List Result}
    (returned :
      values.mapM (fun value => if check value then some (result value) else none) =
        some results) :
    results = values.map result ∧ ∀ value ∈ values, check value := by
  induction values generalizing results with
  | nil => exact ⟨(Option.some.inj returned).symm, by simp⟩
  | cons first rest ih =>
    rw [mapM_cons] at returned
    split at returned
    next holds =>
      obtain ⟨_, head, returned⟩ := Option.bind_eq_some_iff.mp returned
      obtain rfl := Option.some.inj head
      obtain ⟨later, read, same⟩ := Option.bind_eq_some_iff.mp returned
      obtain ⟨laterEq, laterHold⟩ := ih read
      refine ⟨?_, ?_⟩
      · rw [← Option.some.inj same, laterEq]
        rfl
      · intro value listed
        rcases List.mem_cons.mp listed with rfl | isLater
        · exact holds
        · exact laterHold value isLater
    next => exact nomatch returned

theorem mapM_checked_some
    (result : Value → Result)
    (holds : ∀ value ∈ values, check value) :
    values.mapM (fun value => if check value then some (result value) else none) =
      some (values.map result) := by
  induction values with
  | nil => rfl
  | cons first rest ih =>
    rw [mapM_cons, if_pos (holds first mem_cons_self),
      ih fun value listed =>
        holds value (mem_cons_of_mem _ listed)]
    rfl

end

section

variable
    {pieces : List Bytes}
    {width : Nat}
    (wide : ∀ piece ∈ pieces, piece.length = width)

include wide

theorem flatten_split
    {slot : Nat}
    {piece : Bytes}
    (found : pieces[slot]? = some piece) :
    ∃ front back, pieces.flatten = front ++ (piece ++ back) ∧
      front.length = slot * width := by
  induction pieces generalizing slot with
  | nil => simp at found
  | cons first rest ih =>
    cases slot with
    | zero =>
      have same : first = piece := by simpa using found
      exact ⟨[], rest.flatten, by simp [same], by simp⟩
    | succ slot =>
      obtain ⟨front, back, shape, length⟩ := ih
        (fun other listed => wide other (mem_cons_of_mem _ listed))
        (by simpa using found)
      refine ⟨first ++ front, back, by simp [shape], ?_⟩
      rw [length_append, wide first mem_cons_self, length]
      ring

theorem flatten_length :
    pieces.flatten.length = pieces.length * width := by
  rw [List.length_flatten, List.map_congr_left wide]
  simp

end

/-- The entry of a slot in the index. -/
def indexEntry (slot : Nat) : Bytes :=
  pack 8 (slot * expertRawBytes) ++ pack 8 expertRawBytes

/-- The header of the index. -/
def indexHeader (layers : Nat) : Bytes :=
  expertMagic ++ pack 4 expertFormatVersion ++ pack 4 layers ++
    pack 4 convertedExpertsPerLayer ++ pack 8 expertRawBytes

/-- The parts of a written index and experts file. -/
structure ExpertLayout
    (layers : Nat)
    (payload : Nat → Nat → Bytes)
    (index experts : Bytes) : Prop where
  small : layers < 2 ^ 32
  offsets : ∀ slot < layers * convertedExpertsPerLayer,
    slot * expertRawBytes < 2 ^ 64
  payloads : ∀ slot < layers * convertedExpertsPerLayer,
    (slotPayload payload slot).length = expertRawBytes
  index : index = indexHeader layers ++
    ((List.range (layers * convertedExpertsPerLayer)).map indexEntry).flatten
  experts : experts =
    ((List.range (layers * convertedExpertsPerLayer)).map
      (slotPayload payload)).flatten

theorem convertRoutedExperts_layout
    {layers : Nat}
    {payload : Nat → Nat → Bytes}
    {index experts : Bytes}
    (written : convertRoutedExperts layers payload = some (index, experts)) :
    ExpertLayout layers payload index experts := by
  unfold convertRoutedExperts at written
  obtain ⟨header, packed, written⟩ := Option.bind_eq_some_iff.mp written
  obtain ⟨entries, listed, written⟩ := Option.bind_eq_some_iff.mp written
  obtain ⟨payloads, checked, written⟩ := Option.bind_eq_some_iff.mp written
  obtain ⟨rfl, rfl⟩ := Prod.mk.inj (Option.some.inj written)
  unfold packIndexHeader at packed
  split at packed
  next fits =>
    obtain ⟨entriesEq, offsets⟩ := mapM_checked listed
    obtain ⟨payloadsEq, lengths⟩ := mapM_checked checked
    refine ⟨fits, fun slot inside => offsets slot (List.mem_range.mpr inside),
      fun slot inside => lengths slot (List.mem_range.mpr inside), ?_, ?_⟩
    · rw [← Option.some.inj packed, entriesEq]
      rfl
    · rw [payloadsEq]
  next => exact nomatch packed

section Experts

variable {layers : Nat} {payload : Nat → Nat → Bytes} {index experts : Bytes}

theorem indexEntry_width
    (count : Nat) :
    ∀ entry ∈ (List.range count).map indexEntry, entry.length = 16 := by
  intro entry listed
  obtain ⟨slot, -, rfl⟩ := List.mem_map.mp listed
  simp [indexEntry]

theorem indexHeader_length (layers : Nat) : (indexHeader layers).length = 32 := by
  simp [indexHeader, expertMagic_length]

section

variable
    (layout : ExpertLayout layers payload index experts)

include layout

theorem ExpertLayout.width :
    ∀ piece ∈ (List.range (layers * convertedExpertsPerLayer)).map
        (slotPayload payload), piece.length = expertRawBytes := by
  intro piece listed
  obtain ⟨slot, inside, rfl⟩ := List.mem_map.mp listed
  exact layout.payloads slot (List.mem_range.mp inside)

theorem ExpertLayout.index_length :
    index.length = 32 + layers * convertedExpertsPerLayer * 16 := by
  rw [layout.index, length_append, indexHeader_length,
    flatten_length (indexEntry_width _)]
  simp

theorem ExpertLayout.experts_length :
    experts.length = layers * convertedExpertsPerLayer * expertRawBytes := by
  rw [layout.experts, flatten_length layout.width]
  simp

theorem ExpertLayout.header :
    index.take 12 = expertMagic ∧ readAt 4 index 12 = expertFormatVersion ∧
      readAt 4 index 16 = layers ∧ readAt 4 index 20 = convertedExpertsPerLayer ∧
      readAt 8 index 24 = expertRawBytes := by
  have small := layout.small
  rw [layout.index]
  generalize ((List.range (layers * convertedExpertsPerLayer)).map
    indexEntry).flatten = entries
  simp only [indexHeader, append_assoc]
  refine ⟨List.take_left' expertMagic_length, ?_, ?_, ?_, ?_⟩
  · rw [← expertMagic_length]
    exact readAt_pack (by decide) _ _
  · rw [← append_assoc expertMagic,
      show 16 = (expertMagic ++ pack 4 expertFormatVersion).length by
        simp [expertMagic_length]]
    exact readAt_pack (by omega) _ _
  · rw [← append_assoc expertMagic, ← append_assoc (expertMagic ++ _),
      show 20 = (expertMagic ++ pack 4 expertFormatVersion ++ pack 4 layers).length by
        simp [expertMagic_length]]
    exact readAt_pack (by decide) _ _
  · rw [← append_assoc expertMagic, ← append_assoc (expertMagic ++ _),
      ← append_assoc (expertMagic ++ _ ++ _),
      show 24 = (expertMagic ++ pack 4 expertFormatVersion ++ pack 4 layers ++
        pack 4 convertedExpertsPerLayer).length by simp [expertMagic_length]]
    exact readAt_pack (by decide) _ _

end

/-- The format the index describes. -/
def convertedFormat (layers : Nat) : ExpertFormat where
  sectorSize := sectorSize
  numLayers := layers
  expertsPerLayer := convertedExpertsPerLayer
  payloadBytes := expertRawBytes

theorem convertedFormat_total
    (small : layers < 2 ^ 32) :
    (convertedFormat layers).totalExperts = layers * convertedExpertsPerLayer := by
  refine Nat.mod_eq_of_lt ?_
  simp only [convertedFormat, convertedExpertsPerLayer]
  omega

theorem expertRawBytes_aligned (slot : Nat) :
    slot * expertRawBytes % sectorSize = 0 := by
  rw [Nat.mul_mod, show expertRawBytes % sectorSize = 0 by decide]
  simp

theorem ExpertLayout.entry
    (layout : ExpertLayout layers payload index experts)
    {slot : Nat}
    (inside : slot < layers * convertedExpertsPerLayer) :
    parseIndexEntry (convertedFormat layers) index slot =
      .ok (slot * expertRawBytes) := by
  obtain ⟨front, back, shape, length⟩ := flatten_split (indexEntry_width _)
    (show ((List.range (layers * convertedExpertsPerLayer)).map indexEntry)[slot]? =
      some (indexEntry slot) by simp [inside])
  have fits : slot * expertRawBytes < 256 ^ 8 := by
    have := layout.offsets slot inside
    omega
  have whole : index =
      (indexHeader layers ++ front) ++ (pack 8 (slot * expertRawBytes) ++
        (pack 8 expertRawBytes ++ back)) := by
    rw [layout.index, shape, indexEntry]
    simp only [append_assoc]
  have place : (indexHeader layers ++ front).length = 32 + slot * 16 := by
    rw [length_append, indexHeader_length, length]
  have offset : readAt 8 index (32 + slot * 16) = slot * expertRawBytes := by
    rw [whole, ← place]
    exact readAt_pack fits _ _
  have byteLength : readAt 8 index (32 + slot * 16 + 8) = expertRawBytes := by
    rw [whole, ← append_assoc, ← place,
      show (indexHeader layers ++ front).length + 8 = (indexHeader layers ++ front ++
        pack 8 (slot * expertRawBytes)).length by
          simp only [length_append, pack_length]]
    exact readAt_pack (by decide) _ _
  unfold parseIndexEntry
  simp only [offset, byteLength]
  rw [if_neg]
  rintro (wrong | unaligned)
  · exact wrong rfl
  · exact unaligned (expertRawBytes_aligned slot)

theorem ExpertLayout.openExperts_converted
    (mapping : Option String)
    (expertsPath : String)
    (layout : ExpertLayout layers payload index experts)
    (some_ : 0 < layers)
    (atOnce : index.length ≤ maxReadCount) :
    openExperts mapping expertsPath experts index expertFormatVersion sectorSize
        expertRawBytes =
      match mapping with
      | some _ => refuse ("AeonModelLoader: Failed to mmap experts file: " ++ expertsPath)
      | none => .ok (expertFormatVersion, convertedFormat layers,
          (List.range (layers * convertedExpertsPerLayer)).map (· * expertRawBytes)) := by
  have small := layout.small
  have length := layout.index_length
  obtain ⟨magic, version, layerCount, perLayer, payloadBytes⟩ := layout.header
  have total := convertedFormat_total small
  have entries := mapM_ok (fun slot listed =>
    layout.entry (List.mem_range.mp listed))
  have valid : validateCatalog (convertedFormat layers) = .ok () := by
    unfold validateCatalog
    rw [if_neg (by
      rw [show (convertedFormat layers).sectorSize = sectorSize from rfl,
        show (convertedFormat layers).payloadBytes = expertRawBytes from rfl]
      decide), if_neg]
    rw [total]
    simp only [convertedFormat, convertedExpertsPerLayer]
    omega
  have bytes : experts.length ≠ 0 := by
    rw [layout.experts_length]
    simp only [convertedExpertsPerLayer, expertRawBytes]
    omega
  have format :
      ({ sectorSize := sectorSize
         numLayers := readAt 4 index 16
         expertsPerLayer := readAt 4 index 20
         payloadBytes := readAt 8 index 24 } : ExpertFormat) =
        convertedFormat layers := by
    rw [layerCount, perLayer, payloadBytes]
    rfl
  have whole : u64 (32 + u64 (layers * convertedExpertsPerLayer * 16)) =
      index.length := by
    rw [length]
    simp only [u64, convertedExpertsPerLayer]
    omega
  unfold openExperts
  simp only [format]
  rw [if_neg (by omega), if_neg (by omega), if_neg (by simp [magic]),
    if_neg (by simp [version]), if_neg (by simp [payloadBytes]), valid, ok_bind, total,
    if_neg (by simp only [convertedExpertsPerLayer]; omega), if_neg (by omega),
    entries, ok_bind, mapFile_eq bytes]
  cases mapping <;> rfl

theorem ExpertLayout.location
    (layout : ExpertLayout layers payload index experts)
    {loader : AeonModelLoader}
    (format : loader.expertFormat = convertedFormat layers)
    (offsets : loader.expertOffsets =
      (List.range (layers * convertedExpertsPerLayer)).map (· * expertRawBytes))
    (size : loader.expertsFileSize = experts.length)
    {layerId expertId : Nat}
    (layerInside : layerId < layers)
    (expertInside : expertId < convertedExpertsPerLayer) :
    loader.getExpertLocation layerId expertId =
        .ok ⟨(layerId * convertedExpertsPerLayer + expertId) * expertRawBytes,
          expertRawBytes⟩ ∧
      slice experts ((layerId * convertedExpertsPerLayer + expertId) * expertRawBytes)
        expertRawBytes = payload layerId expertId := by
  have small := layout.small
  have inside : layerId * convertedExpertsPerLayer + expertId <
      layers * convertedExpertsPerLayer := by
    simp only [convertedExpertsPerLayer] at expertInside ⊢
    omega
  have own : slotPayload payload (layerId * convertedExpertsPerLayer + expertId) =
      payload layerId expertId := by
    simp only [slotPayload, convertedExpertsPerLayer] at expertInside ⊢
    rw [show (layerId * 256 + expertId) / 256 = layerId by omega,
      show (layerId * 256 + expertId) % 256 = expertId by omega]
  have unwrapped : u64 (u64 (layerId * convertedExpertsPerLayer) + expertId) =
      layerId * convertedExpertsPerLayer + expertId := by
    simp only [u64, convertedExpertsPerLayer] at expertInside ⊢
    omega
  generalize layerId * convertedExpertsPerLayer + expertId = slot at *
  obtain ⟨front, back, shape, length⟩ := flatten_split layout.width
    (show ((List.range (layers * convertedExpertsPerLayer)).map
      (slotPayload payload))[slot]? = some (slotPayload payload slot) by simp [inside])
  have width := layout.payloads slot inside
  have room : slot * expertRawBytes + expertRawBytes ≤ experts.length := by
    rw [layout.experts, shape]
    simp only [length_append, length, width]
    omega
  constructor
  · have found : loader.expertOffsets.getD slot 0 = slot * expertRawBytes := by
      rw [offsets]
      simp [inside]
    unfold AeonModelLoader.getExpertLocation
    simp only [format, convertedFormat, unwrapped, found, size]
    rw [if_neg (by omega), if_neg]
    rintro (none_ | unaligned | outside | short)
    · exact absurd none_ (by decide)
    · exact unaligned (expertRawBytes_aligned slot)
    · omega
    · omega
  · have cut := slice_append front (slotPayload payload slot) back
    rw [← shape, ← layout.experts, length, width, own] at cut
    exact cut

theorem slots_apart
    {layerId expertId otherLayer otherExpert : Nat}
    (expertInside : expertId < convertedExpertsPerLayer)
    (otherInside : otherExpert < convertedExpertsPerLayer)
    (different : (layerId, expertId) ≠ (otherLayer, otherExpert)) :
    Apart ((layerId * convertedExpertsPerLayer + expertId) * expertRawBytes)
      expertRawBytes
      ((otherLayer * convertedExpertsPerLayer + otherExpert) * expertRawBytes)
      expertRawBytes := by
  simp only [Apart, convertedExpertsPerLayer, expertRawBytes] at *
  by_contra close
  refine different (Prod.ext ?_ ?_) <;> simp only <;> omega

/-- The converter writes payloads of the right size. -/
theorem convertRoutedExperts_written
    (small : layers < 2 ^ 32)
    (offsets : layers * convertedExpertsPerLayer * expertRawBytes ≤ 2 ^ 64)
    (payloads : ∀ slot < layers * convertedExpertsPerLayer,
      (slotPayload payload slot).length = expertRawBytes) :
    ∃ index experts, convertRoutedExperts layers payload = some (index, experts) := by
  have fits : ∀ slot ∈ List.range (layers * convertedExpertsPerLayer),
      slot * expertRawBytes < 2 ^ 64 := by
    intro slot listed
    exact Nat.lt_of_lt_of_le
      (Nat.mul_lt_mul_of_pos_right (List.mem_range.mp listed) (by decide)) offsets
  have entries := mapM_checked_some
    (fun slot => pack 8 (slot * expertRawBytes) ++ pack 8 expertRawBytes) fits
  have checked := mapM_checked_some (slotPayload payload)
    (fun slot listed => payloads slot (List.mem_range.mp listed))
  unfold convertRoutedExperts packIndexHeader
  rw [if_pos small]
  refine ⟨_, _, Option.bind_eq_some_iff.mpr ⟨_, rfl,
    Option.bind_eq_some_iff.mpr ⟨_, entries,
      Option.bind_eq_some_iff.mpr ⟨_, checked, rfl⟩⟩⟩⟩

end Experts

/-! ## The round trip -/

section Sorted

variable {tensors : List DenseTensor}

theorem sortedByName_perm : (sortedByName tensors).Perm tensors :=
  List.mergeSort_perm _ _

theorem sortedByName_distinct
    (distinct : (tensors.map DenseTensor.name).Nodup) :
    ((sortedByName tensors).map DenseTensor.name).Nodup :=
  ((sortedByName_perm.map _).nodup_iff).mpr distinct

theorem sortedByName_shapes
    (shapes : SmallShapes tensors) :
    SmallShapes (sortedByName tensors) :=
  fun tensor listed => shapes tensor (sortedByName_perm.mem_iff.mp listed)

theorem sortedByName_total :
    totalBytes (sortedByName tensors) = totalBytes tensors :=
  (sortedByName_perm.map _).sum_eq

end Sorted

/-- Every tensor and every expert has its own bytes back. -/
structure RoundTrips
    (tensors : List DenseTensor)
    (layers : Nat)
    (payload : Nat → Nat → Bytes)
    (files : ArtifactFiles)
    (loader : AeonModelLoader) : Prop where
  tensors : ∀ tensor ∈ tensors, ∃ loaded,
    loader.getTensor (Utf8.encode tensor.name) = .ok loaded ∧
      loaded.dtype = Utf8.encode tensor.dtype ∧
      loaded.shape = tensor.shape.map Int.ofNat ∧
      slice files.dense loaded.data loaded.byteSize = tensor.data
  experts : ∀ layerId < layers, ∀ expertId < convertedExpertsPerLayer, ∃ location,
    loader.getExpertLocation layerId expertId = .ok location ∧
      slice files.experts location.fileOffset location.byteLength =
        payload layerId expertId
  tensorsApart : ∀ name otherName loaded otherLoaded,
    loader.getTensor name = .ok loaded →
      loader.getTensor otherName = .ok otherLoaded → name ≠ otherName →
        Apart loaded.data loaded.byteSize otherLoaded.data otherLoaded.byteSize
  expertsApart : ∀ layerId expertId otherLayer otherExpert location otherLocation,
    loader.getExpertLocation layerId expertId = .ok location →
      loader.getExpertLocation otherLayer otherExpert = .ok otherLocation →
        (layerId, expertId) ≠ (otherLayer, otherExpert) →
          Apart location.fileOffset location.byteLength otherLocation.fileOffset
            otherLocation.byteLength

theorem getExpertLocation_inside
    {loader : AeonModelLoader}
    {layerId expertId : Nat}
    {location : ExpertLocation}
    (found : loader.getExpertLocation layerId expertId = .ok location) :
    layerId < loader.expertFormat.numLayers ∧
      expertId < loader.expertFormat.expertsPerLayer := by
  unfold AeonModelLoader.getExpertLocation at found
  simp only at found
  split at found
  · exact nomatch found
  next inside => omega

section Reload

variable {tensors : List DenseTensor} {layers : Nat} {payload : Nat → Nat → Bytes}
  {files : ArtifactFiles}

theorem convert_layout
    (written : convert tensors layers payload = some files) :
    DenseLayout tensors files.dense ∧
      ExpertLayout layers payload files.index files.experts := by
  unfold convert at written
  obtain ⟨dense, denseWritten, written⟩ := Option.bind_eq_some_iff.mp written
  obtain ⟨⟨index, experts⟩, expertsWritten, written⟩ :=
    Option.bind_eq_some_iff.mp written
  simp only at written
  split at written
  next sizes =>
    obtain rfl := Option.some.inj written
    exact ⟨convertDenseTensors_layout denseWritten,
      convertRoutedExperts_layout expertsWritten⟩
  next => exact nomatch written

section

variable
    (indefinite : Int)
    (modelDir : String)
    (written : convert tensors layers payload = some files)
    (distinct : (tensors.map DenseTensor.name).Nodup)
    (shapes : SmallShapes tensors)
    (small : totalBytes tensors < 2 ^ 53)
    (some_ : 0 < layers)
    (atOnce : files.index.length ≤ maxReadCount)

include indefinite modelDir written distinct shapes small some_ atOnce

theorem openModel_written :
    ∃ front loader,
      openModel indefinite {} modelDir {} files = .ok loader ∧
        files.dense =
          front ++ ((sortedByName tensors).flatMap DenseTensor.data ++ []) ∧
        loader.denseTensors = loadedTensors front.length 0 (sortedByName tensors) ∧
        loader.expertFormat = convertedFormat layers ∧
        loader.expertOffsets = (List.range (layers * convertedExpertsPerLayer)).map
          (· * expertRawBytes) ∧
        loader.expertsFileSize = files.experts.length := by
  obtain ⟨denseLayout, expertLayout⟩ := convert_layout written
  obtain ⟨front, shape, opened⟩ := openDense_converted indefinite
    (modelDir ++ "/" ++ "model_dense.aeon") denseLayout files.denseSize
    (sortedByName_shapes shapes) (sortedByName_distinct distinct)
    (by rw [sortedByName_total]; exact small)
  have experts := expertLayout.openExperts_converted none
    (modelDir ++ "/" ++ "model_experts_swizzled.aeon") some_ atOnce
  unfold openModel
  rw [if_neg (by decide)]
  simp only [opened, experts, ok_bind]
  exact ⟨front, _, rfl, shape, rfl, rfl, rfl, rfl⟩

theorem openModel_roundTrips :
    ∃ loader, openModel indefinite {} modelDir {} files = .ok loader ∧
      RoundTrips tensors layers payload files loader := by
  obtain ⟨front, loader, opened, dense, tensorsEq, format, offsets, size⟩ :=
    openModel_written indefinite modelDir written distinct shapes small some_ atOnce
  have layout := (convert_layout written).2
  refine ⟨loader, opened, ?_, ?_, ?_, ?_⟩
  · intro tensor listed
    obtain ⟨loaded, found, dtype, shape, bytes⟩ := loadedTensors_lookup
      (sortedByName_distinct distinct) front [] (sortedByName_perm.mem_iff.mpr listed)
      front.length 0 rfl
    refine ⟨loaded, ?_, dtype, shape, ?_⟩
    · unfold AeonModelLoader.getTensor
      rw [tensorsEq, found]
    · rw [dense]
      exact bytes
  · intro layerId layerInside expertId expertInside
    obtain ⟨found, bytes⟩ :=
      layout.location format offsets size layerInside expertInside
    exact ⟨_, found, bytes⟩
  · intro name otherName loaded otherLoaded found otherFound different
    have listed := getTensor_listed found
    have otherListed := getTensor_listed otherFound
    rw [tensorsEq] at listed otherListed
    exact loadedTensors_apart listed otherListed different
  · intro layerId expertId otherLayer otherExpert location otherLocation found
      otherFound different
    obtain ⟨layerInside, expertInside⟩ := getExpertLocation_inside found
    obtain ⟨otherLayerInside, otherExpertInside⟩ := getExpertLocation_inside otherFound
    rw [format] at layerInside expertInside otherLayerInside otherExpertInside
    rw [(layout.location format offsets size layerInside expertInside).1] at found
    rw [(layout.location format offsets size otherLayerInside otherExpertInside).1]
      at otherFound
    obtain rfl := Except.ok.inj found
    obtain rfl := Except.ok.inj otherFound
    exact slots_apart expertInside otherExpertInside different

end

/-- What the converter accepts. -/
theorem convert_written
    (few : layers < 2 ^ 32)
    (fits : layers * convertedExpertsPerLayer * expertRawBytes < 2 ^ 63)
    (payloads : ∀ slot < layers * convertedExpertsPerLayer,
      (slotPayload payload slot).length = expertRawBytes)
    {dense : Bytes}
    (denseWritten : convertDenseTensors tensors = some dense)
    (short : dense.length < 2 ^ 63) :
    ∃ files, convert tensors layers payload = some files := by
  obtain ⟨index, experts, written⟩ :=
    convertRoutedExperts_written few (by omega) payloads
  have layout := convertRoutedExperts_layout written
  have expertsShort : experts.length < 2 ^ 63 := by
    rw [layout.experts_length]
    exact fits
  have indexShort : index.length < 2 ^ 63 := by
    rw [layout.index_length]
    simp only [convertedExpertsPerLayer]
    omega
  unfold convert
  rw [denseWritten, written]
  simp only [Option.bind_eq_bind, Option.bind_some]
  rw [dif_pos ⟨short, expertsShort, indexShort⟩]
  exact ⟨_, rfl⟩

end Reload

/-- Payloads of the right size. -/
def blankPayload (_ _ : Nat) : Bytes :=
  List.replicate expertRawBytes 0

theorem blankPayload_length (slot : Nat) :
    (slotPayload blankPayload slot).length = expertRawBytes :=
  List.length_replicate

/-- Two tensors, one with a name outside ASCII. -/
def sampleTensors : List DenseTensor :=
  [{ name := "bias".toList
     dtype := "F16".toList
     shape := [2]
     data := [7, 8, 9, 10] },
    { name := "λ.weight".toList
      dtype := "U8".toList
      shape := [2, 3]
      data := [1, 2, 3, 4, 5, 6] }]

theorem sampleTensors_written :
    ∃ dense, convertDenseTensors sampleTensors = some dense ∧
      dense.length < 2 ^ 63 := by
  have sorted : sortedByName sampleTensors = sampleTensors :=
    List.mergeSort_of_pairwise (by decide)
  have checked : ((convertDenseTensors sampleTensors).any
      fun dense => dense.length < 2 ^ 63) = true := by
    unfold convertDenseTensors
    rw [sorted]
    decide +kernel
  simpa only [Option.any_eq_true, decide_eq_true_eq] using checked

theorem openModel_refused
    {layers : Nat}
    {payload : Nat → Nat → Bytes}
    {files : ArtifactFiles}
    {error : LoaderError}
    (indefinite : Int)
    (mapping : Option String)
    (written : convert [] layers payload = some files)
    (refused : openExperts mapping "model/model_experts_swizzled.aeon" files.experts
      files.index expertFormatVersion sectorSize expertRawBytes = .error error) :
    openModel indefinite ⟨none, mapping⟩ "model" {} files = .error error := by
  obtain ⟨front, -, opened⟩ := openDense_converted indefinite
    "model/model_dense.aeon" (convert_layout written).1 files.denseSize
    (sortedByName_shapes (by simp [SmallShapes])) (sortedByName_distinct (by simp))
    (by rw [sortedByName_total]; simp [totalBytes])
  unfold openModel
  rw [if_neg (by decide)]
  have densePath : "model" ++ "/" ++ "model_dense.aeon" = "model/model_dense.aeon" := by
    decide
  have expertsPath : "model" ++ "/" ++ "model_experts_swizzled.aeon" =
      "model/model_experts_swizzled.aeon" := by decide
  simp only [densePath, expertsPath, opened, refused, ok_bind]
  rfl

theorem noTensors_written :
    ∃ dense, convertDenseTensors [] = some dense ∧ dense.length < 2 ^ 63 :=
  ⟨(convertDenseTensors []).get (by decide +kernel),
    Option.some_get _ |>.symm, by decide +kernel⟩

/-- The layers of blank experts that the converter accepts. -/
theorem blank_written
    {layers : Nat}
    (fits : layers * convertedExpertsPerLayer * expertRawBytes < 2 ^ 63) :
    ∃ files, convert [] layers blankPayload = some files ∧
      ExpertLayout layers blankPayload files.index files.experts := by
  obtain ⟨dense, denseWritten, short⟩ := noTensors_written
  have few : layers < 2 ^ 32 := by
    simp only [convertedExpertsPerLayer, expertRawBytes] at fits
    omega
  obtain ⟨files, written⟩ := convert_written few fits
    (fun slot _ => blankPayload_length slot) denseWritten short
  exact ⟨files, written, (convert_layout written).2⟩

end Aeon.Artifact
