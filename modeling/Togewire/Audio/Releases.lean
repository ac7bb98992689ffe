import Togewire.Audio.Sums

/-!
# Releases

Where the releases of yt-dlp and Deno lie, and what they hold.  An asset is genuine if its digest is
the one the release's sums give for its name; yt-dlp is its asset, and Deno is deflated in its own.
-/

namespace Togewire.Audio.Tools

open Sums

/-- What is downloaded. -/
inductive Tool
  | ytdlp
  | deno
  deriving DecidableEq

/-! ## What to fetch -/

/-- What the server runs on. -/
structure Platform where
  arch : String
  /-- The system's `ldd` names musl. -/
  musl : Bool := false
  /-- A Deno on the PATH. -/
  systemDeno : Bool := false

namespace Platform

variable (platform : Platform)

/-- The file of a release for this platform. -/
def assetName : Tool → String
  | .ytdlp =>
      let libc := if platform.musl then "musllinux" else "linux"
      if platform.arch = "aarch64" then "yt-dlp_" ++ libc ++ "_aarch64" else "yt-dlp_" ++ libc
  | .deno => "deno-" ++ platform.arch ++ "-unknown-linux-gnu.zip"

/-- Where the releases of a tool are. -/
def base : Tool → String
  | .ytdlp => "https://github.com/yt-dlp/yt-dlp/releases/latest/download"
  | .deno => "https://github.com/denoland/deno/releases/latest/download"

/-- Where the file is downloaded from. -/
def assetUrl (tool : Tool) : String := base tool ++ "/" ++ platform.assetName tool

/-- Where its sum is published. -/
def sumsUrl : Tool → String
  | .ytdlp => base .ytdlp ++ "/SHA2-256SUMS"
  | .deno => platform.assetUrl .deno ++ ".sha256sum"

end Platform

/-! ## What is in it -/

/-- What is deflated in an archive lies behind 30 bytes, a name and an extra field, whose lengths
the last four of these bytes are; nothing of it is left where the archive is cut short. -/
def Packed (zip data : List UInt8) : Prop :=
  data = [] ∨ ∃ flags times low high few many name extra,
    zip = [0x50, 0x4b, 3, 4] ++ flags ++ [8, 0] ++ times ++ [low, high, few, many] ++ name ++
        extra ++ data ∧
      flags.length = 4 ∧ times.length = 16 ∧ name.length = low.toNat + 256 * high.toNat ∧
      extra.length = few.toNat + 256 * many.toNat

/-- A number of two bytes, zero beyond the end. -/
def le16 (zip : List UInt8) (i : Nat) : Nat :=
  match zip[i]?, zip[i + 1]? with
  | some low, some high => low.toNat + 256 * high.toNat
  | _, _ => 0

/-- `unzip_single`: behind 30 fixed bytes, the file name and the extra field. -/
def unzipSingle (inflate : List UInt8 → Option (List UInt8)) (zip : List UInt8) :
    Option (List UInt8) :=
  if [0x50, 0x4b, 3, 4].isPrefixOf zip ∧ le16 zip 8 = 8 then
    inflate (zip.drop (30 + le16 zip 26 + le16 zip 28))
  else
    none

theorem le16_of_lt (zip : List UInt8) (i : Nat) (inside : i + 1 < zip.length) :
    ∃ low high, (zip.drop i).take 2 = [low, high] ∧ le16 zip i = low.toNat + 256 * high.toNat := by
  refine ⟨zip[i], zip[i + 1], ?_, by simp [le16, inside, Nat.lt_of_succ_lt inside]⟩
  rw [List.drop_eq_getElem_cons (Nat.lt_of_succ_lt inside), List.drop_eq_getElem_cons inside]
  rfl

/-- What is unpacked is inflated from where it lies. -/
theorem packed_of_unzipSingle {inflate : List UInt8 → Option (List UInt8)}
    {zip content : List UInt8} (unzipped : unzipSingle inflate zip = some content) :
    ∃ data, Packed zip data ∧ inflate data = some content := by
  rw [unzipSingle, Option.ite_none_right_eq_some] at unzipped
  obtain ⟨⟨magic, method⟩, inflated⟩ := unzipped
  refine ⟨_, ?_, inflated⟩
  by_cases short : zip.length ≤ 30 + le16 zip 26 + le16 zip 28
  · exact .inl (List.drop_eq_nil_of_le short)
  · have piece (i n : Nat) : (zip.drop i).take n ++ zip.drop (i + n) = zip.drop i := by
      rw [← List.drop_drop, List.take_append_drop]
    have first : zip.take 4 = [0x50, 0x4b, 3, 4] :=
      (List.prefix_iff_eq_take.mp (List.isPrefixOf_iff_prefix.mp magic)).symm
    obtain ⟨deflate, none, shown, number⟩ := le16_of_lt zip 8 (by omega)
    obtain ⟨low, high, name_bytes, name_length⟩ := le16_of_lt zip 26 (by omega)
    obtain ⟨few, many, extra_bytes, extra_length⟩ := le16_of_lt zip 28 (by omega)
    obtain ⟨rfl, rfl⟩ : deflate = 8 ∧ none = 0 := by
      rw [method] at number
      constructor <;> apply UInt8.toNat_inj.mp <;> simp <;> omega
    refine .inr ⟨(zip.drop 4).take 4, (zip.drop 10).take 16, low, high, few, many,
      (zip.drop 30).take (le16 zip 26), (zip.drop (30 + le16 zip 26)).take (le16 zip 28),
      ?_, ?_, ?_, ?_, ?_⟩
    · rw [show [low, high, few, many] = [low, high] ++ [few, many] from rfl, ← first, ← shown,
        ← name_bytes, ← extra_bytes]
      simp only [List.append_assoc]
      rw [piece, piece, piece 28 2, piece 26 2, piece 10 16, piece 8 2, piece 4 4,
        List.take_append_drop]
    · simp; omega
    · simp; omega
    · simp; omega
    · simp; omega

section Release

variable (sha256 : List UInt8 → List UInt8) (inflate : List UInt8 → Option (List UInt8))
  (platform : Platform)

/-- What is installed of an asset. -/
def unpack : Tool → List UInt8 → Option (List UInt8)
  | .ytdlp, asset => some asset
  | .deno, asset => unzipSingle inflate asset

/-- What an asset holds: itself, or what is deflated in it. -/
def Holds : Tool → List UInt8 → List UInt8 → Prop
  | .ytdlp, asset, content => content = asset
  | .deno, asset, content => ∃ data, Packed asset data ∧ inflate data = some content

/-- An asset holds this, and the sums give its digest for its name. -/
def Genuine (tool : Tool) (content : List UInt8) (text : List Char) (asset : List UInt8) : Prop :=
  (∃ hash, Lists (platform.assetName tool).toList text hash ∧
      hash.map Char.toLower = Hexadecimal.encode (sha256 asset)) ∧
    Holds inflate tool asset content

variable {sha256 inflate platform}

theorem genuine_of_unpack {tool : Tool} {content asset : List UInt8} {text : List Char}
    (named : parseSha256sums text (platform.assetName tool).toList =
      some (Hexadecimal.encode (sha256 asset)))
    (unpacked : unpack inflate tool asset = some content) :
    Genuine sha256 inflate platform tool content text asset := by
  refine ⟨parseSha256sums_eq_some_iff.mp named, ?_⟩
  cases tool with
  | ytdlp => exact (Option.some.inj unpacked).symm
  | deno => exact packed_of_unzipSingle unpacked

end Release

end Togewire.Audio.Tools
