import StickerBook.Text.Lower

/-!
# Lower-case texts of ASCII

On a text of ASCII characters the full lower-case mapping changes each character by itself, as the mapping of ASCII
letters does (`lower_ascii`).
-/

set_option autoImplicit false

namespace StickerBook.Text

/-- All characters belong to ASCII. -/
def Ascii (text : String) : Prop := ∀ c ∈ text.toList, c.toNat < 128

instance (text : String) : Decidable (Ascii text) := List.decidableBAll _ text.toList

theorem lowerChar_ofNat : ∀ n < 128, lowerChar (Char.ofNat n) = [(Char.ofNat n).toLower] := by
  decide +kernel

theorem lowerChar_ascii {c : Char} (ascii : c.toNat < 128) : lowerChar c = [c.toLower] := by
  have image := lowerChar_ofNat c.toNat ascii
  rwa [Char.ofNat_toNat] at image

theorem lowerAfter_ascii (before : List Char) {cs : List Char} (ascii : ∀ c ∈ cs, c.toNat < 128) :
    lowerAfter before cs = cs.map Char.toLower := by
  induction cs generalizing before with
  | nil => rfl
  | cons c rest ih =>
    obtain ⟨first, later⟩ := List.forall_mem_cons.1 ascii
    have other : c ≠ capitalSigma := by
      rintro rfl
      exact absurd first (by decide)
    rw [lowerAfter, if_neg other, lowerChar_ascii first, ih _ later]
    rfl

theorem lower_ascii {text : String} (ascii : Ascii text) : lower text.toList = text.toList.map Char.toLower :=
  lowerAfter_ascii [] ascii

end StickerBook.Text
