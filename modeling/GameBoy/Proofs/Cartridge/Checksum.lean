import GameBoy.Proofs.Cartridge.Loading
import Mathlib.Algebra.BigOperators.Group.Finset.Basic
import Mathlib.Algebra.Ring.Nat
import Mathlib.Order.Interval.Finset.Nat

/-!
# What the header checksum detects

The checksum of a header is a sum modulo 256: every byte from `0x134` to `0x14C` counts with
the weight minus one, and no other byte counts at all. Bytes are smaller than the modulus, so a
single one of them cannot change unnoticed. An image that carries its own checksum is loaded
without a report of it, and with one byte of the description or the checksum changed it is
loaded with one.
-/

namespace GameBoy.Cartridge

/-- The places of the bytes that the checksum is taken over. -/
def covered : Finset Nat := Finset.Icc 0x134 0x14C

/-- The sum of the bytes that the checksum is taken over. -/
def coveredSum (image : Image) : Nat := ∑ place ∈ covered, (image[place]?.getD 0).toNat

/-- The image with its checksum stored in the header. -/
def stamp (image : Image) (long : headerEnd ≤ image.size) : Image :=
  image.set 0x14D (headerChecksum image) (Nat.lt_of_lt_of_le (by decide) long)

variable {image other : Image} {place : Nat} {value : Byte}

@[simp] theorem mem_covered : place ∈ covered ↔ 0x134 ≤ place ∧ place ≤ 0x14C :=
  Finset.mem_Icc

@[simp] theorem size_stamp (long : headerEnd ≤ image.size) :
    (stamp image long).size = image.size :=
  Array.size_set _

/-! ## The checksum as a sum -/

theorem toNat_sub_sub_one (sum byte : Byte) :
    ((sum - byte - 1).toNat : ℤ) = (sum.toNat - byte.toNat - 1) % 256 := by
  have := sum.toNat_lt
  have := byte.toNat_lt
  simp only [UInt8.toNat_sub, UInt8.toNat_one]
  omega

/-- Subtracting bytes in turn subtracts their sum and their number. -/
theorem toNat_foldl_sub_sub_one (bytes : List Byte) (start : Byte) :
    ((bytes.foldl (fun sum byte => sum - byte - 1) start).toNat : ℤ) =
      (start.toNat - (bytes.map UInt8.toNat).sum - bytes.length) % 256 := by
  induction bytes generalizing start with
  | nil =>
      have := start.toNat_lt
      simp only [List.foldl_nil, List.map_nil, List.sum_nil, List.length_nil]
      omega
  | cons byte bytes ih =>
      rw [List.foldl_cons, ih, toNat_sub_sub_one, List.map_cons, List.sum_cons, List.length_cons]
      omega

theorem toList_extract_of_le {start stop : Nat} (inside : stop ≤ image.size) :
    (image.extract start stop).toList =
      (List.range' start (stop - start)).map fun place => image[place]?.getD 0 := by
  apply List.ext_getElem
  · rw [Array.length_toList, Array.size_extract, Nat.min_eq_left inside, List.length_map,
      List.length_range']
  · intro index inner _
    have present : start + index < image.size := by
      rw [Array.length_toList, Array.size_extract] at inner
      omega
    rw [Array.getElem_toList, Array.getElem_extract, List.getElem_map, List.getElem_range',
      Nat.one_mul, Array.getElem?_eq_getElem present, Option.getD_some]

theorem coveredSum_eq (long : 0x14D ≤ image.size) :
    ((image.extract 0x134 0x14D).toList.map UInt8.toNat).sum = coveredSum image := by
  rw [toList_extract_of_le long, List.map_map, coveredSum, covered, Nat.Icc_eq_range']
  rfl

/-- The checksum is a sum modulo 256. -/
theorem toNat_headerChecksum (long : 0x14D ≤ image.size) :
    ((headerChecksum image).toNat : ℤ) = (-coveredSum image - 25) % 256 := by
  have number : (image.extract 0x134 0x14D).toList.length = 25 := by
    rw [Array.length_toList, Array.size_extract, Nat.min_eq_left long]
  rw [headerChecksum, if_pos long, ← Array.foldl_toList, toNat_foldl_sub_sub_one,
    coveredSum_eq long, number, UInt8.toNat_zero, Int.ofNat_zero, Int.zero_sub]
  rfl

/-! ## What it depends on -/

theorem coveredSum_congr (same : ∀ place ∈ covered, other[place]? = image[place]?) :
    coveredSum other = coveredSum image :=
  Finset.sum_congr rfl fun place inside => by rw [same place inside]

/-- Images of whatever lengths have the same checksum if the covered bytes are the same. -/
theorem headerChecksum_congr (long : 0x14D ≤ image.size) (otherLong : 0x14D ≤ other.size)
    (same : ∀ place ∈ covered, other[place]? = image[place]?) :
    headerChecksum other = headerChecksum image := by
  apply UInt8.toNat_inj.mp
  have sum := toNat_headerChecksum long
  rw [← coveredSum_congr same, ← toNat_headerChecksum otherLong] at sum
  exact Int.ofNat_inj.mp sum.symm

theorem headerChecksum_set_of_notMem (long : 0x14D ≤ image.size) (inside : place < image.size)
    (uncovered : place ∉ covered) :
    headerChecksum (image.set place value) = headerChecksum image := by
  refine headerChecksum_congr long (by rwa [Array.size_set]) fun elsewhere within => ?_
  exact Array.getElem?_set_ne inside fun same => uncovered (same ▸ within)

/-- A byte that is replaced leaves the sum, and another takes its place. -/
theorem coveredSum_set (inside : place < image.size) (within : place ∈ covered) :
    coveredSum (image.set place value) + image[place].toNat =
      coveredSum image + value.toNat := by
  have others : ∑ elsewhere ∈ covered.erase place,
      ((image.set place value)[elsewhere]?.getD 0).toNat =
        ∑ elsewhere ∈ covered.erase place, (image[elsewhere]?.getD 0).toNat := by
    refine Finset.sum_congr rfl fun elsewhere among => ?_
    rw [Array.getElem?_set_ne inside (Finset.ne_of_mem_erase among).symm]
  have before := Finset.add_sum_erase covered (fun place => (image[place]?.getD 0).toNat) within
  have after := Finset.add_sum_erase covered
    (fun elsewhere => ((image.set place value)[elsewhere]?.getD 0).toNat) within
  simp only [Array.getElem?_eq_getElem inside, Option.getD_some] at before
  simp only [Array.getElem?_set_self inside, Option.getD_some, others] at after
  rw [coveredSum, coveredSum, ← before, ← after]
  omega

/-- Replacing one covered byte by a different one changes the checksum. -/
theorem headerChecksum_set_ne (long : 0x14D ≤ image.size) (inside : place < image.size)
    (within : place ∈ covered) (different : value ≠ image[place]) :
    headerChecksum (image.set place value) ≠ headerChecksum image := by
  intro same
  apply different
  apply UInt8.toNat_inj.mp
  have before := toNat_headerChecksum long
  have stillLong : 0x14D ≤ (image.set place value).size := by rwa [Array.size_set]
  have after := toNat_headerChecksum stillLong
  have exchange : coveredSum (image.set place value) + image[place].toNat =
      coveredSum image + value.toNat := coveredSum_set inside within
  rw [same, before] at after
  -- The two bytes are congruent modulo 256, and both are smaller.
  have := image[place].toNat_lt
  have := value.toNat_lt
  omega

/-! ## The checksum in the header -/

theorem checksum_ofImage_set (inside : place < image.size) (long : headerEnd ≤ image.size)
    (stillLong : headerEnd ≤ (image.set place value).size) :
    (Header.ofImage (image.set place value) stillLong).checksum =
      if place = 0x14D then value else (Header.ofImage image long).checksum :=
  Array.getElem_set inside _

/-- Storing a checksum changes nothing else of the header. -/
theorem ofImage_stamp (long : headerEnd ≤ image.size)
    (stillLong : headerEnd ≤ (stamp image long).size) :
    Header.ofImage (stamp image long) stillLong =
      { Header.ofImage image long with checksum := headerChecksum image } := by
  have title : (stamp image long).extract 0x134 0x144 = image.extract 0x134 0x144 := by
    rw [stamp, Array.extract_set, dif_neg (by decide), dif_neg (by omega)]
  have kept {place : Nat} (inside : place < image.size)
      (stillInside : place < (stamp image long).size) (elsewhere : 0x14D ≠ place) :
      (stamp image long)[place] = image[place] :=
    Array.getElem_set_ne _ inside elsewhere
  have stored (stillInside : 0x14D < (stamp image long).size) :
      (stamp image long)[0x14D] = headerChecksum image :=
    Array.getElem_set_self _
  rw [Header.ofImage, Header.ofImage, Header.mk.injEq]
  exact ⟨by rw [title], kept _ _ (by decide), kept _ _ (by decide), kept _ _ (by decide),
    stored _, congrArg₂ Word.ofBytes (kept _ _ (by decide)) (kept _ _ (by decide))⟩

/-- The checksum is not taken over the place where it is stored. -/
theorem headerChecksum_stamp (long : headerEnd ≤ image.size) :
    headerChecksum (stamp image long) = headerChecksum image :=
  headerChecksum_set_of_notMem (Nat.le_trans (by decide) long) _ (by decide)

/-- A checksum is reported exactly if the header carries another one than the image has. -/
theorem checksumMismatch_mem_loadEvents {header : Header} {stored computed : Byte} :
    Event.checksumMismatch stored computed ∈ loadEvents header image ↔
      stored = header.checksum ∧ computed = headerChecksum image ∧ computed ≠ stored := by
  simp only [loadEvents, List.mem_append, List.mem_singleton]
  rw [or_iff_left nofun, or_iff_left (by split <;> simp)]
  split
  next right =>
    simp only [List.not_mem_nil, false_iff]
    rintro ⟨rfl, rfl, wrong⟩
    exact wrong right
  next wrong =>
    rw [List.mem_singleton, Event.checksumMismatch.injEq]
    constructor
    · rintro ⟨rfl, rfl⟩
      exact ⟨rfl, rfl, wrong⟩
    · rintro ⟨stored, computed, -⟩
      exact ⟨stored, computed⟩

/-- A stamped image carries its own checksum. -/
theorem checksum_ofImage_stamp (long : headerEnd ≤ image.size)
    (stillLong : headerEnd ≤ (stamp image long).size) :
    (Header.ofImage (stamp image long) stillLong).checksum =
      headerChecksum (stamp image long) := by
  rw [ofImage_stamp long stillLong, headerChecksum_stamp]

/-- With one of the covered bytes or the checksum replaced it carries a wrong one. -/
theorem checksum_ofImage_stamp_set_ne (long : headerEnd ≤ image.size) (first : 0x134 ≤ place)
    (last : place ≤ 0x14D) (inside : place < (stamp image long).size)
    (different : value ≠ (stamp image long)[place])
    (stillLong : headerEnd ≤ ((stamp image long).set place value).size) :
    (Header.ofImage ((stamp image long).set place value) stillLong).checksum ≠
      headerChecksum ((stamp image long).set place value) := by
  have stampedLong : headerEnd ≤ (stamp image long).size := by rwa [size_stamp]
  have reaches : 0x14D ≤ (stamp image long).size := Nat.le_trans (by decide) stampedLong
  have own := checksum_ofImage_stamp long stampedLong
  rw [checksum_ofImage_set inside stampedLong]
  by_cases field : place = 0x14D
  · subst field
    rw [if_pos rfl, headerChecksum_set_of_notMem reaches inside (by decide), ← own]
    exact different
  · have within : place ∈ covered := mem_covered.mpr ⟨first, by omega⟩
    rw [if_neg field, own]
    exact (headerChecksum_set_ne reaches inside within different).symm

/-- The checksum of a header detects that one byte was replaced. It is a sum modulo 256 over the
bytes from `0x134` to `0x14C`, depends on no other byte of an image that has these, and changes
with each of them. Storing it changes nothing else that is read from the header, and the image
is then loaded without a report of its checksum. Replacing any one byte from `0x134` to `0x14D`
of that image makes the stored checksum wrong, and loading reports it. -/
theorem checksum_detects_replaced_byte (image : Image) (reaches : 0x14C < image.size) :
    ((headerChecksum image).toNat : ℤ) = (-coveredSum image - 25) % 256 ∧
    (∀ other : Image, 0x14C < other.size →
      (∀ place, 0x134 ≤ place → place ≤ 0x14C → other[place]? = image[place]?) →
        headerChecksum other = headerChecksum image) ∧
    (∀ place value, 0x134 ≤ place → place ≤ 0x14C → ∀ inside : place < image.size,
      value ≠ image[place] → headerChecksum (image.set place value) ≠ headerChecksum image) ∧
    ∀ long : headerEnd ≤ image.size,
      (∃ cartridge events, load (stamp image long) = .ok (cartridge, events) ∧
        cartridge.header.checksum = headerChecksum (stamp image long) ∧
        cartridge.header =
          { Header.ofImage image long with checksum := headerChecksum image } ∧
        ∀ stored computed, Event.checksumMismatch stored computed ∉ events) ∧
      ∀ place value, 0x134 ≤ place → place ≤ 0x14D →
        ∀ inside : place < (stamp image long).size, value ≠ (stamp image long)[place] →
          let changed := (stamp image long).set place value
          ∃ cartridge events, load changed = .ok (cartridge, events) ∧
            cartridge.header.checksum ≠ headerChecksum changed ∧
            Event.checksumMismatch cartridge.header.checksum (headerChecksum changed) ∈
              events := by
  refine ⟨toNat_headerChecksum reaches, ?_, ?_, ?_⟩
  · intro other otherReaches same
    refine headerChecksum_congr reaches otherReaches fun place within => ?_
    obtain ⟨first, last⟩ := mem_covered.mp within
    exact same place first last
  · intro place value first last inside different
    exact headerChecksum_set_ne reaches inside (mem_covered.mpr ⟨first, last⟩) different
  · intro long
    have stampedLong : headerEnd ≤ (stamp image long).size := by rwa [size_stamp]
    constructor
    · have own := checksum_ofImage_stamp long stampedLong
      refine ⟨_, _, load_of_long stampedLong, own, ofImage_stamp long stampedLong, ?_⟩
      intro stored computed reported
      obtain ⟨rfl, rfl, wrong⟩ := checksumMismatch_mem_loadEvents.mp reported
      exact wrong own.symm
    · intro place value first last inside different changed
      have stillLong : headerEnd ≤ changed.size := by rwa [Array.size_set]
      have wrong := checksum_ofImage_stamp_set_ne long first last inside different stillLong
      exact ⟨_, _, load_of_long stillLong, wrong,
        checksumMismatch_mem_loadEvents.mpr ⟨rfl, rfl, wrong.symm⟩⟩

/-- An image with a title of one letter, and with a cartridge type. It stays folded, so that no
search for a bound writes its bytes out. -/
@[irreducible] def lettered : Image := shortestImage [(0x134, 0x47), (0x147, 0x13)]

theorem size_lettered : lettered.size = headerEnd := by
  decide +kernel

/-- A byte behind the image does not count. The highest bit of the type moves the sum as far as
one bit can, and is noticed; so is a checksum that is erased. -/
theorem checksum_detects_replaced_byte_of_half :
    ∃ (long : headerEnd ≤ lettered.size) (kind : 0x147 < lettered.size)
      (stampedKind : 0x147 < (stamp lettered long).size)
      (stampedField : 0x14D < (stamp lettered long).size),
      headerChecksum lettered = 0x8D ∧ headerChecksum (lettered.push 0xFF) = 0x8D ∧
      headerChecksum (lettered.set 0x147 0x93) ≠ 0x8D ∧
      (∃ cartridge events, load (stamp lettered long) = .ok (cartridge, events) ∧
        cartridge.header.checksum = headerChecksum (stamp lettered long)) ∧
      let flipped := (stamp lettered long).set 0x147 0x93
      let erased := (stamp lettered long).set 0x14D 0x00
      (∃ cartridge events, load flipped = .ok (cartridge, events) ∧
        cartridge.header.checksum ≠ headerChecksum flipped) ∧
      ∃ cartridge events, load erased = .ok (cartridge, events) ∧
        cartridge.header.checksum ≠ headerChecksum erased := by
  have long : headerEnd ≤ lettered.size := Nat.le_of_eq size_lettered.symm
  have reaches : 0x14C < lettered.size := Nat.lt_of_lt_of_le (by decide) long
  have kind : 0x147 < lettered.size := Nat.lt_of_lt_of_le (by decide) long
  have stampedKind : 0x147 < (stamp lettered long).size := by rwa [size_stamp]
  have stampedField : 0x14D < (stamp lettered long).size := by
    rw [size_stamp]
    exact Nat.lt_of_lt_of_le (by decide) long
  obtain ⟨closed, other, differs, stamped⟩ := checksum_detects_replaced_byte lettered reaches
  obtain ⟨⟨cartridge, events, loaded, own, -, -⟩, replaced⟩ := stamped long
  have sum : coveredSum lettered = 0x5A := by decide +kernel
  have checksum : headerChecksum lettered = 0x8D := by
    rw [sum] at closed
    exact UInt8.toNat_inj.mp (Int.ofNat_inj.mp closed)
  have type : (0x93 : Byte) ≠ lettered[0x147] := by
    have byte : lettered[0x147]? = some 0x13 := by decide +kernel
    rw [(Array.getElem?_eq_some_iff.mp byte).2]
    decide
  have stampedType : (stamp lettered long)[0x147] = lettered[0x147] :=
    Array.getElem_set_ne _ kind (by decide)
  have field : (stamp lettered long)[0x14D] = 0x8D :=
    (Array.getElem_set_self _).trans checksum
  refine ⟨long, kind, stampedKind, stampedField, checksum, ?_, ?_, ⟨_, _, loaded, own⟩, ?_, ?_⟩
  · refine (other _ (by rw [Array.size_push]; omega) fun place _ last => ?_).trans checksum
    have inside : place < lettered.size := Nat.lt_of_le_of_lt last reaches
    rw [Array.getElem?_push_lt inside, Array.getElem?_eq_getElem inside]
  · intro same
    exact differs 0x147 0x93 (by decide) (by decide) kind type (same.trans checksum.symm)
  · obtain ⟨cartridge, events, loaded, wrong, -⟩ :=
      replaced 0x147 0x93 (by decide) (by decide) stampedKind (stampedType ▸ type)
    exact ⟨_, _, loaded, wrong⟩
  · obtain ⟨cartridge, events, loaded, wrong, -⟩ :=
      replaced 0x14D 0x00 (by decide) (by decide) stampedField (by rw [field]; decide)
    exact ⟨_, _, loaded, wrong⟩

end GameBoy.Cartridge
