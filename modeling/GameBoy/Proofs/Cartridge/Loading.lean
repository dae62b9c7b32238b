import GameBoy.Cartridge

/-!
# Which images are cartridges

The length of an image decides whether it is accepted, and which error it causes
otherwise. What its header says of circuit, sizes and checksum is only reported.
-/

namespace GameBoy.Cartridge

variable {image : Image}

theorem load_of_empty (empty : image.size = 0) : load image = .error .emptyCartridge := by
  have nothing : image.isEmpty = true := Array.isEmpty_iff_size_eq_zero.mpr empty
  rw [load, if_pos nothing]

theorem load_of_short (filled : 0 < image.size) (short : image.size < headerEnd) :
    load image = .error (.shortCartridge image.size) := by
  have something : ¬image.isEmpty = true := by
    rw [Array.isEmpty_iff_size_eq_zero]
    exact Nat.ne_of_gt filled
  rw [load, if_neg something, dif_neg (Nat.not_le.mpr short)]

theorem load_of_long (long : headerEnd ≤ image.size) :
    load image =
      .ok (ofImage image long, loadEvents (ofImage image long).header image) := by
  have something : ¬image.isEmpty = true := by
    rw [Array.isEmpty_iff_size_eq_zero]
    exact Nat.ne_of_gt (Nat.lt_of_lt_of_le (by decide) long)
  rw [load, if_neg something, dif_pos long]

/-- A cartridge that is loaded is the one of its image. -/
theorem eq_ofImage_of_load {cartridge : Cartridge} {events : List Event}
    (loaded : load image = .ok (cartridge, events)) :
    ∃ long : headerEnd ≤ image.size, cartridge = ofImage image long := by
  by_cases long : headerEnd ≤ image.size
  · rw [load_of_long long] at loaded
    injection loaded with same
    injection same with same
    exact ⟨long, same.symm⟩
  · rcases Nat.eq_zero_or_pos image.size with empty | filled
    · exact nomatch (load_of_empty empty).symm.trans loaded
    · exact nomatch (load_of_short filled (Nat.lt_of_not_le long)).symm.trans loaded

/-- An image is rejected exactly when it ends inside its header; an empty one and one
that holds less than a header are told apart. -/
theorem load_eq_error_iff (error : LoadError) :
    load image = .error error ↔
      image.size = 0 ∧ error = .emptyCartridge ∨
        0 < image.size ∧ image.size < headerEnd ∧ error = .shortCartridge image.size := by
  constructor
  · intro rejected
    by_cases long : headerEnd ≤ image.size
    · rw [load_of_long long] at rejected
      exact nomatch rejected
    · replace long := Nat.not_le.mp long
      rcases Nat.eq_zero_or_pos image.size with empty | filled
      · rw [load_of_empty empty] at rejected
        injection rejected with same
        exact .inl ⟨empty, same.symm⟩
      · rw [load_of_short filled long] at rejected
        injection rejected with same
        exact .inr ⟨filled, long, same.symm⟩
  · rintro (⟨empty, rfl⟩ | ⟨filled, short, rfl⟩)
    · exact load_of_empty empty
    · exact load_of_short filled short

/-- An image that ends inside its header is rejected. -/
theorem exists_error_of_short (short : image.size < headerEnd) :
    ∃ error, load image = .error error := by
  rcases Nat.eq_zero_or_pos image.size with empty | filled
  · exact ⟨_, load_of_empty empty⟩
  · exact ⟨_, load_of_short filled short⟩

/-- The shortest image that is accepted, with some of its bytes set. -/
def shortestImage (bytes : List (Nat × Byte)) : Image :=
  bytes.foldl (fun image cell => image.setIfInBounds cell.1 cell.2) (Array.replicate headerEnd 0)

end GameBoy.Cartridge
