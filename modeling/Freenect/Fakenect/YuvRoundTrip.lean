import Freenect.Camera.VideoProcess
import Freenect.Fakenect.RecordPlay
import Mathlib.Data.Rat.Floor
import Mathlib.Tactic.Linarith

/-!
# To YUV and back

The player makes UYVY frames of the RGB frames of a recording, `convert_rgb_to_uyvy`; the driver
makes RGB frames of the camera's UYVY frames, `convert_uyvy_to_rgb`. The first computes in `float`
and cuts off, the second in integers that are rounded toward zero five times a pixel, with factors
of three decimals that are not quite each other's inverse.

`yuv_round_trip` bounds what a frame loses on the way there and back: each component comes back up
to 5, and up to the difference to the other pixel of its pair, with which it shares its colour. Of
`float` it uses only that the sums are exact to a hundredth (`Approximates`), which the rational
numbers are as well.

**Where the bound comes from.** A colour goes to a luminance of its own and to two colour
differences, of which the pair shares the averages; so a pixel may be off by what the two of a pair
differ in. Cutting the sums off to bytes costs less than one each (`Cut`), and so does each of the
divisions on the way back; multiplied by their factors and added up this is less than 6
(`components_near`). A difference of whole numbers below 6 is at most 5.
-/

namespace Freenect

/-! ### What the sums stand for

The three sums of the player in exact numbers, and how far `float` may be from them. -/

/-- A component as a number. -/
def level (rgb : ℕ → UInt8) (c : ℕ) : ℚ := ((rgb c).toNat : ℚ)

/-- The luminance of a colour. -/
def exactLuma (r g b : ℚ) : ℚ := 257 / 1000 * r + 504 / 1000 * g + 98 / 1000 * b + 16

/-- The blue difference. -/
def exactU (r g b : ℚ) : ℚ := -(148 / 1000 * r) - 291 / 1000 * g + 439 / 1000 * b + 128

/-- The red difference. -/
def exactV (r g b : ℚ) : ℚ := 439 / 1000 * r - 368 / 1000 * g - 71 / 1000 * b + 128

/-- `x` is `y` to a hundredth. -/
def Near (x y : ℚ) : Prop := y - 1 / 100 ≤ x ∧ x ≤ y + 1 / 100

/-- Numbers that are as good as `float` has to be here: each sum comes out to a hundredth, and a
byte is what is in front of the point. -/
structure Approximates (F : Type) [PixelFloat F] (value : F → ℚ) : Prop where
  luma : ∀ rgb, Near (value (lumaOf F rgb))
    (exactLuma (level rgb 0) (level rgb 1) (level rgb 2))
  chromaU : ∀ rgb0 rgb1, Near (value ((chromaUOf F rgb0 + chromaUOf F rgb1) / ((2 : ℤ) : F)))
    ((exactU (level rgb0 0) (level rgb0 1) (level rgb0 2) +
      exactU (level rgb1 0) (level rgb1 1) (level rgb1 2)) / 2)
  chromaV : ∀ rgb0 rgb1, Near (value ((chromaVOf F rgb0 + chromaVOf F rgb1) / ((2 : ℤ) : F)))
    ((exactV (level rgb0 0) (level rgb0 1) (level rgb0 2) +
      exactV (level rgb1 0) (level rgb1 1) (level rgb1 2)) / 2)
  toByte : ∀ x, 0 ≤ value x → value x < 256 →
    ((PixelFloat.toByte x).toNat : ℚ) ≤ value x ∧ value x < (PixelFloat.toByte x).toNat + 1

/-- The byte of a number between 0 and 256 is its integral part. -/
theorem toByte_rational {x : ℚ} (h0 : 0 ≤ x) (h : x < 256) :
    ((PixelFloat.toByte x).toNat : ℚ) ≤ x ∧ x < (PixelFloat.toByte x).toNat + 1 := by
  have hnonneg : 0 ≤ ⌊x⌋ := Int.floor_nonneg.2 h0
  have hlt : ⌊x⌋ < 256 := Int.floor_lt.2 (by exact_mod_cast h)
  have hbyte : ((PixelFloat.toByte x).toNat : ℚ) = (⌊x⌋ : ℚ) := by
    show ((UInt8.ofNat (towardZero x).toNat).toNat : ℚ) = _
    rw [towardZero_of_nonneg h0, UInt8.toNat_ofNat_of_lt' (by rw [UInt8.size]; omega)]
    exact_mod_cast Int.toNat_of_nonneg hnonneg
  rw [hbyte]
  exact ⟨Int.floor_le x, Int.lt_floor_add_one x⟩

/-- A number is near itself. -/
theorem near_self (x : ℚ) : Near x x := ⟨by linarith, by linarith⟩

/-- The three sums in rational numbers. -/
theorem sums_rational (rgb : ℕ → UInt8) :
    lumaOf ℚ rgb = exactLuma (level rgb 0) (level rgb 1) (level rgb 2) ∧
      chromaUOf ℚ rgb = exactU (level rgb 0) (level rgb 1) (level rgb 2) ∧
      chromaVOf ℚ rgb = exactV (level rgb 0) (level rgb 1) (level rgb 2) := by
  have hlevel : ∀ c, (((rgb c).toNat : ℤ) : ℚ) = level rgb c := fun c ↦ Int.cast_natCast _
  refine ⟨?_, ?_, ?_⟩
  · show (0.257 : ℚ) * (((rgb 0).toNat : ℤ) : ℚ) + (0.504 : ℚ) * (((rgb 1).toNat : ℤ) : ℚ) +
      (0.098 : ℚ) * (((rgb 2).toNat : ℤ) : ℚ) + ((16 : ℤ) : ℚ) = _
    rw [hlevel, hlevel, hlevel, exactLuma]
    norm_num
  · show -((0.148 : ℚ) * (((rgb 0).toNat : ℤ) : ℚ)) - (0.291 : ℚ) * (((rgb 1).toNat : ℤ) : ℚ) +
      (0.439 : ℚ) * (((rgb 2).toNat : ℤ) : ℚ) + ((128 : ℤ) : ℚ) = _
    rw [hlevel, hlevel, hlevel, exactU]
    norm_num
  · show (0.439 : ℚ) * (((rgb 0).toNat : ℤ) : ℚ) - (0.368 : ℚ) * (((rgb 1).toNat : ℤ) : ℚ) -
      (0.071 : ℚ) * (((rgb 2).toNat : ℤ) : ℚ) + ((128 : ℤ) : ℚ) = _
    rw [hlevel, hlevel, hlevel, exactV]
    norm_num

/-- Rational numbers are exact. -/
theorem approximates_rational : Approximates ℚ id where
  luma rgb := (sums_rational rgb).1 ▸ near_self _
  chromaU rgb0 rgb1 := by
    rw [(sums_rational rgb0).2.1, (sums_rational rgb1).2.1]
    exact near_self _
  chromaV rgb0 rgb1 := by
    rw [(sums_rational rgb0).2.2, (sums_rational rgb1).2.2]
    exact near_self _
  toByte _ h0 h := toByte_rational h0 h

/-! ### One pixel

In exact numbers first: bytes that are cut off from the sums of a pixel, and the sums that the
driver makes of them. -/

/-- Cutting a quotient off costs less than one. -/
theorem tdiv_bounds (a : ℤ) : (a : ℚ) / 1000 - 1 < (a.tdiv 1000 : ℤ) ∧
    ((a.tdiv 1000 : ℤ) : ℚ) < (a : ℚ) / 1000 + 1 := by
  have heq : (1000 : ℚ) * (a.tdiv 1000 : ℤ) + (a.tmod 1000 : ℤ) = a := by
    exact_mod_cast Int.mul_tdiv_add_tmod a 1000
  have hlow : (-1000 : ℚ) < (a.tmod 1000 : ℤ) := by
    exact_mod_cast Int.lt_tmod_of_pos a (by decide : (0 : ℤ) < 1000)
  have hhigh : ((a.tmod 1000 : ℤ) : ℚ) < 1000 := by
    exact_mod_cast Int.tmod_lt_of_pos a (by decide : (0 : ℤ) < 1000)
  constructor
  · linarith
  · linarith

/-- The luminance term of the driver, up to one. -/
theorem lumaTerm_bounds (y : UInt8) :
    ((y.toNat : ℚ) - 16) * 1164 / 1000 - 1 < lumaTerm y ∧
      (lumaTerm y : ℚ) < ((y.toNat : ℚ) - 16) * 1164 / 1000 + 1 := by
  have h := tdiv_bounds (((y.toNat : ℤ) - 16) * 1164)
  push_cast at h
  exact h

/-- The colour terms of the driver, up to one. -/
theorem chromaTerm_bounds (factor : ℤ) (c : UInt8) :
    ((c.toNat : ℚ) - 128) * factor / 1000 - 1 < chromaTerm factor c ∧
      (chromaTerm factor c : ℚ) < ((c.toNat : ℚ) - 128) * factor / 1000 + 1 := by
  have h := tdiv_bounds (((c.toNat : ℤ) - 128) * factor)
  push_cast at h
  exact h

/-- `n` is a number near `x`, cut off. -/
def Cut (n : ℕ) (x : ℚ) : Prop := x - 101 / 100 < n ∧ (n : ℚ) ≤ x + 1 / 100

/-- A pixel of the colour `(r, g, b)` next to one of the colour `(r', g', b')`. -/
structure PixelPair (d r g b r' g' b' : ℚ) : Prop where
  red : 0 ≤ r ∧ r ≤ 255
  green : 0 ≤ g ∧ g ≤ 255
  blue : 0 ≤ b ∧ b ≤ 255
  nextRed : r - d ≤ r' ∧ r' ≤ r + d
  nextGreen : g - d ≤ g' ∧ g' ≤ g + d
  nextBlue : b - d ≤ b' ∧ b' ≤ b + d

section Pixel

variable {d r g b r' g' b' : ℚ} {y u v : UInt8}

/-- **A pixel comes back** up to 5 and the difference to the other pixel, before `CLAMP`: the
factors of the two conversions are inverse to each other up to a thousandth, the bytes have lost at
most one each, and so have the quotients. -/
theorem components_near (h : PixelPair d r g b r' g' b') (hd : 0 ≤ d)
    (hy : Cut y.toNat (exactLuma r g b))
    (hu : Cut u.toNat ((exactU r g b + exactU r' g' b') / 2))
    (hv : Cut v.toNat ((exactV r g b + exactV r' g' b') / 2)) :
    |(lumaTerm y : ℚ) + chromaTerm 1596 v - r| < 6 + d ∧
      |(lumaTerm y : ℚ) - chromaTerm 813 v - chromaTerm 391 u - g| < 6 + d ∧
      |(lumaTerm y : ℚ) + chromaTerm 2018 u - b| < 6 + d := by
  obtain ⟨⟨hr0, hr⟩, ⟨hg0, hg⟩, ⟨hb0, hb⟩, ⟨hr1, hr2⟩, ⟨hg1, hg2⟩, ⟨hb1, hb2⟩⟩ := h
  obtain ⟨hy1, hy2⟩ := hy
  obtain ⟨hu1, hu2⟩ := hu
  obtain ⟨hv1, hv2⟩ := hv
  obtain ⟨hl1, hl2⟩ := lumaTerm_bounds y
  obtain ⟨ha1, ha2⟩ := chromaTerm_bounds 1596 v
  obtain ⟨hc1, hc2⟩ := chromaTerm_bounds 813 v
  obtain ⟨he1, he2⟩ := chromaTerm_bounds 391 u
  obtain ⟨hf1, hf2⟩ := chromaTerm_bounds 2018 u
  rw [exactLuma] at hy1 hy2
  simp only [exactU] at hu1 hu2
  simp only [exactV] at hv1 hv2
  push_cast at ha1 ha2 hc1 hc2 he1 he2 hf1 hf2
  refine ⟨?_, ?_, ?_⟩ <;> rw [abs_lt] <;> constructor <;> linarith

end Pixel

/-- `CLAMP` brings a number no further from a byte. -/
theorem clamp_near {x o e : ℤ} (h0 : 0 ≤ o) (h : o ≤ 255) (hx : |x - o| ≤ e) :
    |clamp x - o| ≤ e := by
  rw [abs_le] at hx ⊢
  unfold clamp
  dsimp only
  split_ifs <;> omega

/-- `CLAMP` makes a byte. -/
theorem clamp_range (x : ℤ) : 0 ≤ clamp x ∧ clamp x ≤ 255 := by
  unfold clamp
  dsimp only
  split_ifs <;> omega

/-! ### One pair of pixels

The bytes of two pixels side by side, from the RGB frame to the UYVY frame and back. -/

/-- A component is between 0 and 255. -/
theorem level_range (rgb : ℕ → UInt8) (c : ℕ) : 0 ≤ level rgb c ∧ level rgb c ≤ 255 := by
  have hbyte : (rgb c).toNat ≤ 255 := Nat.le_of_lt_succ (rgb c).toNat_lt
  exact ⟨Nat.cast_nonneg _, show ((rgb c).toNat : ℚ) ≤ 255 by exact_mod_cast hbyte⟩

/-- The components of two pixels differ by at most `d`. -/
def Alike (d : ℕ) (rgb rgb' : ℕ → UInt8) : Prop :=
  ∀ c < 3, |((rgb c).toNat : ℤ) - (rgb' c).toNat| ≤ d

instance (d : ℕ) (rgb rgb' : ℕ → UInt8) : Decidable (Alike d rgb rgb') :=
  inferInstanceAs (Decidable (∀ c < 3, _))

section Pair

variable {d : ℕ} {rgb rgb' : ℕ → UInt8}

/-- The relation is symmetric. -/
theorem Alike.symm (h : Alike d rgb rgb') : Alike d rgb' rgb := fun c hc ↦
  abs_sub_comm ((rgb c).toNat : ℤ) (rgb' c).toNat ▸ h c hc

/-- The components of two such pixels as numbers. -/
theorem Alike.pixelPair (h : Alike d rgb rgb') :
    PixelPair d (level rgb 0) (level rgb 1) (level rgb 2) (level rgb' 0) (level rgb' 1)
      (level rgb' 2) := by
  have hnext : ∀ c < 3, level rgb c - d ≤ level rgb' c ∧ level rgb' c ≤ level rgb c + d := by
    intro c hc
    have habs := abs_le.1 (h c hc)
    have h1 : ((rgb c).toNat : ℤ) ≤ (rgb' c).toNat + d := by omega
    have h2 : ((rgb' c).toNat : ℤ) ≤ (rgb c).toNat + d := by omega
    have h1 : ((rgb c).toNat : ℚ) ≤ (rgb' c).toNat + d := by exact_mod_cast h1
    have h2 : ((rgb' c).toNat : ℚ) ≤ (rgb c).toNat + d := by exact_mod_cast h2
    exact ⟨sub_le_iff_le_add.2 h1, h2⟩
  exact ⟨level_range rgb 0, level_range rgb 1, level_range rgb 2, hnext 0 (by decide),
    hnext 1 (by decide), hnext 2 (by decide)⟩

/-- A difference of whole numbers that is less than 6 is at most 5. -/
theorem clamp_near_of_lt {x : ℤ} {c : ℕ} (h : |(x : ℚ) - level rgb c| < 6 + d) :
    |clamp x - (rgb c).toNat| ≤ 5 + d := by
  have hlt : |x - ((rgb c).toNat : ℤ)| < 6 + d := by
    rw [level] at h
    exact_mod_cast h
  have hbyte := (rgb c).toNat_lt
  exact clamp_near (by omega) (by omega) (by omega)

/-- One pixel of a pair, in the bytes of the driver. -/
theorem rgbOfYuv_near (h : Alike d rgb rgb') {y u v : UInt8}
    (hy : Cut y.toNat (exactLuma (level rgb 0) (level rgb 1) (level rgb 2)))
    (hu : Cut u.toNat ((exactU (level rgb 0) (level rgb 1) (level rgb 2) +
      exactU (level rgb' 0) (level rgb' 1) (level rgb' 2)) / 2))
    (hv : Cut v.toNat ((exactV (level rgb 0) (level rgb 1) (level rgb 2) +
      exactV (level rgb' 0) (level rgb' 1) (level rgb' 2)) / 2)) :
    ∀ c < 3, |(rgbOfYuv y u v).getD c 0 - (rgb c).toNat| ≤ 5 + d := by
  obtain ⟨hred, hgreen, hblue⟩ := components_near h.pixelPair (Nat.cast_nonneg d) hy hu hv
  intro c hc
  match c, hc with
  | 0, _ => exact clamp_near_of_lt (by push_cast; exact hred)
  | 1, _ => exact clamp_near_of_lt (by push_cast; exact hgreen)
  | 2, _ => exact clamp_near_of_lt (by push_cast; exact hblue)

variable {F : Type} [PixelFloat F] {value : F → ℚ}

/-- The byte of a sum is the sum, cut off. -/
theorem Approximates.cut (hF : Approximates F value) {x : F} {y : ℚ} (h : Near (value x) y)
    (h0 : 1 ≤ y) (h255 : y ≤ 255) : Cut (PixelFloat.toByte x).toNat y := by
  obtain ⟨hlow, hhigh⟩ := h
  obtain ⟨hle, hlt⟩ := hF.toByte x (by linarith) (by linarith)
  exact ⟨by linarith, by linarith⟩

/-- The sums of a pixel are those of a byte. -/
theorem sums_range (rgb : ℕ → UInt8) :
    let luma := exactLuma (level rgb 0) (level rgb 1) (level rgb 2)
    let chromaU := exactU (level rgb 0) (level rgb 1) (level rgb 2)
    let chromaV := exactV (level rgb 0) (level rgb 1) (level rgb 2)
    (1 ≤ luma ∧ luma ≤ 255) ∧ (1 ≤ chromaU ∧ chromaU ≤ 255) ∧ (1 ≤ chromaV ∧ chromaV ≤ 255) := by
  obtain ⟨hr0, hr⟩ := level_range rgb 0
  obtain ⟨hg0, hg⟩ := level_range rgb 1
  obtain ⟨hb0, hb⟩ := level_range rgb 2
  rw [exactLuma, exactU, exactV]
  refine ⟨⟨?_, ?_⟩, ⟨?_, ?_⟩, ?_, ?_⟩ <;> linarith

/-- What `CLAMP` leaves fits a byte. -/
theorem toNat_written (y u v : UInt8) : ∀ c < 3,
    ((UInt8.ofNat ((rgbOfYuv y u v).getD c 0).toNat).toNat : ℤ) = (rgbOfYuv y u v).getD c 0 := by
  have hbyte : ∀ x, ((UInt8.ofNat (clamp x).toNat).toNat : ℤ) = clamp x := by
    intro x
    obtain ⟨h0, h255⟩ := clamp_range x
    rw [UInt8.toNat_ofNat_of_lt' (by rw [UInt8.size]; omega)]
    exact Int.toNat_of_nonneg h0
  intro c hc
  match c, hc with
  | 0, _ => exact hbyte _
  | 1, _ => exact hbyte _
  | 2, _ => exact hbyte _

/-- The bytes of a decoded pair. -/
theorem toNat_decodePair (raw : Bytes) (i : ℕ) : ∀ c < 3,
    (((decodePair raw i).written.getD c 0).toNat : ℤ) =
        (rgbOfYuv (raw (2 * i + 1)) (raw (2 * i)) (raw (2 * i + 2))).getD c 0 ∧
      (((decodePair raw i).written.getD (3 + c) 0).toNat : ℤ) =
        (rgbOfYuv (raw (2 * i + 3)) (raw (2 * i)) (raw (2 * i + 2))).getD c 0 := by
  intro c hc
  have hfirst := toNat_written (raw (2 * i + 1)) (raw (2 * i)) (raw (2 * i + 2)) c hc
  have hsecond := toNat_written (raw (2 * i + 3)) (raw (2 * i)) (raw (2 * i + 2)) c hc
  match c, hc with
  | 0, _ => exact ⟨hfirst, hsecond⟩
  | 1, _ => exact ⟨hfirst, hsecond⟩
  | 2, _ => exact ⟨hfirst, hsecond⟩

/-- **A pair of pixels comes back.** -/
theorem decodePair_near (hF : Approximates F value) (h : Alike d rgb rgb') {raw : Bytes} {i : ℕ}
    (hraw : ∀ j < 4, raw (2 * i + j) = (uyvyPair F rgb rgb').getD j 0) :
    ∀ c < 3,
      |(((decodePair raw i).written.getD c 0).toNat : ℤ) - (rgb c).toNat| ≤ 5 + d ∧
        |(((decodePair raw i).written.getD (3 + c) 0).toNat : ℤ) - (rgb' c).toNat| ≤ 5 + d := by
  obtain ⟨⟨hl1, hl2⟩, ⟨hu1, hu2⟩, ⟨hv1, hv2⟩⟩ := sums_range rgb
  obtain ⟨⟨hl1', hl2'⟩, ⟨hu1', hu2'⟩, ⟨hv1', hv2'⟩⟩ := sums_range rgb'
  have hy := hF.cut (hF.luma rgb) hl1 hl2
  have hy' := hF.cut (hF.luma rgb') hl1' hl2'
  have hu := hF.cut (hF.chromaU rgb rgb') (by linarith) (by linarith)
  have hv := hF.cut (hF.chromaV rgb rgb') (by linarith) (by linarith)
  have hbytes : raw (2 * i) = PixelFloat.toByte ((chromaUOf F rgb + chromaUOf F rgb') /
        ((2 : ℤ) : F)) ∧ raw (2 * i + 1) = PixelFloat.toByte (lumaOf F rgb) ∧
      raw (2 * i + 2) = PixelFloat.toByte ((chromaVOf F rgb + chromaVOf F rgb') /
        ((2 : ℤ) : F)) ∧ raw (2 * i + 3) = PixelFloat.toByte (lumaOf F rgb') :=
    ⟨hraw 0 (by decide), hraw 1 (by decide), hraw 2 (by decide), hraw 3 (by decide)⟩
  obtain ⟨h0, h1, h2, h3⟩ := hbytes
  rw [← h0] at hu
  rw [← h1] at hy
  rw [← h2] at hv
  rw [← h3] at hy'
  intro c hc
  obtain ⟨hfirst, hsecond⟩ := toNat_decodePair raw i c hc
  rw [hfirst, hsecond]
  refine ⟨rgbOfYuv_near h hy hu hv c hc, ?_⟩
  -- the colour is shared, so the pixels of a pair can be exchanged
  rw [add_comm (exactU _ _ _)] at hu
  rw [add_comm (exactV _ _ _)] at hv
  exact rgbOfYuv_near h.symm hy' hu hv c hc

end Pair

/-! ### A frame -/

section Frame

variable {F : Type} [PixelFloat F]

/-- What one turn of the inner loop writes. -/
def storeUyvy (F : Type) [PixelFloat F] (rgbBuffer : ℕ → UInt8) (yuv : ℕ → UInt8) (n : ℕ) :
    ℕ → UInt8 := fun k ↦
  if 4 * n ≤ k then
    (uyvyPair F (fun c ↦ rgbBuffer (6 * n + c)) fun c ↦ rgbBuffer (6 * n + 3 + c)).getD
      (k - 4 * n) (yuv k)
  else yuv k

/-- The loops of `convert_rgb_to_uyvy` as one: with an even width the pairs stand side by side. -/
theorem convertRgbToUyvy_eq (rgbBuffer yuvBuffer : ℕ → UInt8) {mode : PlayMode VideoFormat}
    {half height : ℕ} (hwidth : mode.width = 2 * half) (hheight : mode.height = height) :
    convertRgbToUyvy F rgbBuffer mode yuvBuffer =
      (List.range (height * half)).foldl (storeUyvy F rgbBuffer) yuvBuffer := by
  have hw : mode.width.toNat = 2 * half := by omega
  have hh : mode.height.toNat = height := by omega
  rw [convertRgbToUyvy, hw, hh, show (2 * half + 1) / 2 = half by omega,
    ← ListBlocks.flatMap_range height half, List.foldl_flatMap]
  refine congrArg (fun f ↦ (List.range height).foldl f yuvBuffer) ?_
  funext yuv y
  rw [List.foldl_map]
  refine congrArg (fun f ↦ (List.range half).foldl f yuv) ?_
  funext yuv j k
  have hpos : y * (2 * half) + 2 * j = 2 * (y * half + j) := by ring
  simp only [hpos, storeUyvy]
  generalize y * half + j = n
  rw [show 2 * n * 2 = 4 * n by ring, show 2 * n * 3 = 6 * n by ring,
    show (2 * n + 1) * 3 = 6 * n + 3 by ring]

/-- What a frame holds when `n` pairs have been written. -/
theorem foldl_storeUyvy (rgbBuffer yuvBuffer : ℕ → UInt8) (n : ℕ) {m j : ℕ} (hm : m < n)
    (hj : j < 4) :
    (List.range n).foldl (storeUyvy F rgbBuffer) yuvBuffer (4 * m + j) =
      (uyvyPair F (fun c ↦ rgbBuffer (6 * m + c)) fun c ↦ rgbBuffer (6 * m + 3 + c)).getD j 0 := by
  induction n with
  | zero => exact absurd hm (Nat.not_lt_zero m)
  | succ n ih =>
    rw [List.range_succ, List.foldl_append, List.foldl_cons, List.foldl_nil, storeUyvy]
    rcases Nat.lt_succ_iff_lt_or_eq.1 hm with hlt | rfl
    · rw [if_neg (by omega)]
      exact ih hlt
    · rw [if_pos (by omega), Nat.add_sub_cancel_left]
      have hlen : j < (uyvyPair F (fun c ↦ rgbBuffer (6 * m + c)) fun c ↦
          rgbBuffer (6 * m + 3 + c)).length := hj
      rw [List.getD_eq_getElem _ _ hlen, List.getD_eq_getElem _ _ hlen]

/-- Pieces of one length, one behind the other. -/
theorem getD_flatMap_range {α : Type} {f : ℕ → List α} {b N n c : ℕ} {a : α}
    (hf : ∀ n, (f n).length = b) (hn : n < N) (hc : c < b) :
    ((List.range N).flatMap f).getD (b * n + c) a = (f n).getD c a := by
  induction N with
  | zero => exact absurd hn (Nat.not_lt_zero n)
  | succ N ih =>
    have hlen : ((List.range N).flatMap f).length = b * N := by
      simp [List.length_flatMap, hf, Nat.mul_comm]
    rw [List.range_succ, List.flatMap_append, List.flatMap_singleton]
    rcases Nat.lt_succ_iff_lt_or_eq.1 hn with hlt | rfl
    · have hle : b * (n + 1) ≤ b * N := Nat.mul_le_mul_left b hlt
      rw [List.getD_append _ _ _ _ (by rw [hlen]; rw [Nat.mul_succ] at hle; omega)]
      exact ih hlt
    · rw [List.getD_append_right _ _ _ _ (by omega), hlen, Nat.add_sub_cancel_left]

/-- The bytes of a frame that is decoded. -/
theorem getD_convertUyvyToRgb (raw : Bytes) {half height n c : ℕ} (hn : n < height * half)
    (hc : c < 6) :
    (convertUyvyToRgb raw (2 * half) height).getD (6 * n + c) 0 =
      (decodePair raw (2 * n)).written.getD c 0 := by
  rw [convertUyvyToRgb, decodedPairs_eq, List.flatMap_map]
  exact getD_flatMap_range (fun n ↦ length_written_decodePair raw (2 * n)) hn hc

/-- **A frame comes back** from YUV up to 5 and to what the pixels of a pair differ by. -/
theorem yuv_round_trip {value : F → ℚ} (hF : Approximates F value)
    (rgbBuffer yuvBuffer : ℕ → UInt8) {mode : PlayMode VideoFormat} {half height : ℕ}
    (hwidth : mode.width = 2 * half) (hheight : mode.height = height) {d n : ℕ}
    (hn : n < height * half)
    (halike : Alike d (fun c ↦ rgbBuffer (6 * n + c)) fun c ↦ rgbBuffer (6 * n + 3 + c)) :
    ∀ c < 6,
      |(((convertUyvyToRgb (convertRgbToUyvy F rgbBuffer mode yuvBuffer) (2 * half) height).getD
        (6 * n + c) 0).toNat : ℤ) - (rgbBuffer (6 * n + c)).toNat| ≤ 5 + d := by
  intro c hc
  rw [getD_convertUyvyToRgb _ hn hc]
  have hpair : ∀ j < 4, convertRgbToUyvy F rgbBuffer mode yuvBuffer (2 * (2 * n) + j) =
      (uyvyPair F (fun c ↦ rgbBuffer (6 * n + c)) fun c ↦ rgbBuffer (6 * n + 3 + c)).getD j 0 := by
    intro j hj
    rw [convertRgbToUyvy_eq rgbBuffer yuvBuffer hwidth hheight,
      ← foldl_storeUyvy rgbBuffer yuvBuffer _ hn hj, ← Nat.mul_assoc]
  have hnear := decodePair_near hF halike hpair
  rcases Nat.lt_or_ge c 3 with hlt | hge
  · exact (hnear c hlt).1
  · obtain ⟨e, rfl⟩ := Nat.exists_eq_add_of_le hge
    rw [← Nat.add_assoc]
    exact (hnear e (by omega)).2

end Frame

/-- The last component of the first pair of a frame with rising levels. -/
theorem yuv_round_trip_rising :
    |(((convertUyvyToRgb (convertRgbToUyvy ℚ (fun k ↦ UInt8.ofNat (10 * k))
        ⟨.yuvRaw, 640 * 480 * 2, 640, 480⟩ fun _ ↦ 0) (2 * 320) 480).getD
      (6 * 0 + 5) 0).toNat : ℤ) - (UInt8.ofNat (10 * (6 * 0 + 5))).toNat| ≤ 5 + (30 : ℕ) :=
  yuv_round_trip approximates_rational (fun k ↦ UInt8.ofNat (10 * k)) (fun _ ↦ 0) rfl rfl
    (by decide) (by decide) 5 (by decide)

end Freenect
