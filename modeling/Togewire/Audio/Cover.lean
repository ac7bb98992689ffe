import Togewire.Audio.Images
import Togewire.Foundation.Base64
import Togewire.Foundation.Escape

/-!
# The embedded cover

A cover goes into the cached file by way of an ffmetadata file, in which a FLAC picture block is
written in base64.  The padding is all that has to be escaped there.
-/

namespace Togewire.Audio

open Escape Octets Reading

/-! ## The block and its file -/

/-- A PNG is known by its magic bytes; all else is taken for a JPEG. -/
def coverMime (image : List UInt8) : String :=
  if [0x89, 0x50, 0x4E, 0x47].isPrefixOf image then "image/png" else "image/jpeg"

def mimeBytes (image : List UInt8) : List UInt8 := (coverMime image).toUTF8.data.toList

/-- A FLAC picture block, each number of it in four octets. -/
def pictureBlock (image : List UInt8) (width height : Nat) : List UInt8 :=
  [3, (mimeBytes image).length].flatMap (bigEndian 4) ++ mimeBytes image ++
    -- description length, width, height, colour depth, indexed colours, data length
    [0, width, height, 24, 0, image.length].flatMap (bigEndian 4) ++ image

/-- Count the `=` from the end of the output, take them off and put them back escaped. -/
def escapePad (out : List Char) : List Char :=
  let pad := (out.reverse.takeWhile (· == '=')).length
  out.take (out.length - pad) ++ (List.replicate pad ['\\', '=']).flatten

/-- The ffmetadata file for a cover. -/
def flacPictureFfmetadata (encodeString : List UInt8 → String) (image : List UInt8) :
    Scan String := do
  let dimensions ← imageDimensions image
  let (width, height) := dimensions.getD (0, 0)
  let block := pictureBlock image width height
  let out := ";FFMETADATA1\nMETADATA_BLOCK_PICTURE=" ++ encodeString block
  pure (String.ofList (escapePad out.toList ++ ['\n']))

/-! ## What is read of them -/

/-- The characters with a meaning of their own in ffmetadata. -/
def special (char : Char) : Bool :=
  char == '=' || char == ';' || char == '#' || char == '\\' || char == '\n'

/-- An ffmetadata file with one tag: two lines. -/
def ffmetadata (key value : String) : String :=
  ";FFMETADATA1" ++ "\n" ++ (key ++ "=" ++ value) ++ "\n"

/-- The mime type of an image: a PNG begins with its magic bytes, and all else is taken for a
JPEG. -/
structure HasMime (image mime : List UInt8) : Prop where
  png : [0x89, 0x50, 0x4E, 0x47] <+: image → mime = "image/png".toUTF8.data.toList
  jpeg : ¬ [0x89, 0x50, 0x4E, 0x47] <+: image → mime = "image/jpeg".toUTF8.data.toList

/-- A FLAC picture. -/
structure Picture where
  pictureType : Nat
  mime : List UInt8
  description : List UInt8
  width : Nat
  height : Nat
  depth : Nat
  colours : Nat
  data : List UInt8
  deriving DecidableEq

/-- Octets after their number. -/
def sized : Reader UInt8 (List UInt8) := do
  let length ← numeral 4
  octets length

/-- A FLAC picture block. -/
def picture : Reader UInt8 Picture := do
  let pictureType ← numeral 4
  let mime ← sized
  let description ← sized
  let width ← numeral 4
  let height ← numeral 4
  let depth ← numeral 4
  let colours ← numeral 4
  let data ← sized
  pure { pictureType, mime, description, width, height, depth, colours, data }

/-- The picture in the value of a tag. -/
def embedded (value : List Char) : Option Picture := do
  let block ← Base64.decode (unescape '\\' value)
  whole picture block

/-! ## The block -/

section Block

variable {taken rest image : List UInt8} {width height : Nat}

theorem sized_append (fits : taken.length < 2 ^ 32) :
    sized (bigEndian 4 taken.length ++ (taken ++ rest)) = some (taken, rest) := by
  rw [sized, bind_of_eq_some (numeral_bigEndian fits), octets_append]

theorem mimeBytes_lt (image : List UInt8) : (mimeBytes image).length < 2 ^ 32 := by
  rw [mimeBytes, coverMime]
  split
  · decide +kernel
  · decide +kernel

theorem hasMime_mimeBytes (image : List UInt8) : HasMime image (mimeBytes image) where
  png magic := by
    rw [mimeBytes, coverMime, if_pos (List.isPrefixOf_iff_prefix.mpr magic)]
  jpeg other := by
    rw [mimeBytes, coverMime, if_neg fun magic => other (List.isPrefixOf_iff_prefix.mp magic)]

theorem pictureBlock_ne_nil : pictureBlock image width height ≠ [] := by
  intro empty
  have none := congrArg List.length empty
  simp [pictureBlock] at none

/-- The block is read back field by field. -/
theorem whole_pictureBlock (short : image.length < 2 ^ 32) (narrow : width < 2 ^ 32)
    (low : height < 2 ^ 32) :
    whole picture (pictureBlock image width height) =
      some { pictureType := 3, mime := mimeBytes image, description := [], width, height,
             depth := 24, colours := 0, data := image } := by
  have fields : pictureBlock image width height =
      bigEndian 4 3 ++ (bigEndian 4 (mimeBytes image).length ++ (mimeBytes image ++
        (bigEndian 4 ([] : List UInt8).length ++ ([] ++ (bigEndian 4 width ++
          (bigEndian 4 height ++ (bigEndian 4 24 ++ (bigEndian 4 0 ++
            (bigEndian 4 image.length ++ (image ++ [])))))))))) := by
    simp [pictureBlock]
  have read : picture (pictureBlock image width height) =
      some ({ pictureType := 3, mime := mimeBytes image, description := [], width, height,
              depth := 24, colours := 0, data := image }, []) := by
    rw [fields, picture, bind_of_eq_some (numeral_bigEndian (by decide)),
      bind_of_eq_some (sized_append (mimeBytes_lt image)),
      bind_of_eq_some (sized_append (by decide)), bind_of_eq_some (numeral_bigEndian narrow),
      bind_of_eq_some (numeral_bigEndian low), bind_of_eq_some (numeral_bigEndian (by decide)),
      bind_of_eq_some (numeral_bigEndian (by decide)), bind_of_eq_some (sized_append short)]
    rfl
  rw [whole, read]

end Block

/-! ## The padding -/

/-- What ends in nothing to escape is kept, and every `=` after it escaped. -/
theorem escapePad_append {front : List Char} {last : Char} (plain : last ≠ '=') (pad : Nat) :
    escapePad (front ++ last :: List.replicate pad '=') =
      front ++ last :: (List.replicate pad ['\\', '=']).flatten := by
  have counted : ((front ++ last :: List.replicate pad '=').reverse.takeWhile
      (· == '=')).length = pad := by
    have turned : (front ++ last :: List.replicate pad '=').reverse =
        List.replicate pad '=' ++ last :: front.reverse := by
      simp
    have run : ∀ char ∈ List.replicate pad '=', (char == '=') = true := by
      intro char member
      simpa using List.eq_of_mem_replicate member
    rw [turned, List.takeWhile_append_of_pos run, List.takeWhile_cons_of_neg (by simpa using plain),
      List.append_nil, List.length_replicate]
  have kept : (front ++ last :: List.replicate pad '=').take
      ((front ++ last :: List.replicate pad '=').length - pad) = front ++ [last] := by
    rw [List.append_cons, List.take_left' (by simp; omega)]
  rw [escapePad, counted, kept, List.append_assoc, List.singleton_append]

/-- The `=` of the key is not counted. -/
example : escapePad "PICTURE=Kg==".toList = "PICTURE=Kg\\=\\=".toList := by decide +kernel

theorem letters_ordinary {letters : List Char}
    (within : ∀ char ∈ letters, ∃ bits < 64, char = Base64.letter bits) :
    ∀ char ∈ letters, special char = false := by
  have all : ∀ bits : Fin 64, special (Base64.letter bits) = false := by decide
  intro char member
  obtain ⟨bits, small, rfl⟩ := within char member
  exact all ⟨bits, small⟩

theorem eq_pad_of_special {block : List UInt8} {char : Char} (member : char ∈ Base64.encode block)
    (meaning : special char) : char = '=' := by
  obtain ⟨letters, pad, split, within, -⟩ := Base64.encode_split block
  rw [split] at member
  rcases List.mem_append.mp member with letter | padding
  · rw [letters_ordinary within char letter] at meaning
    cases meaning
  · exact List.eq_of_mem_replicate padding

/-- Behind anything, to escape the padding is to escape the base64 text. -/
theorem escapePad_encode {block : List UInt8} (some_block : block ≠ []) (front : List Char) :
    escapePad (front ++ Base64.encode block) =
      front ++ escape '\\' special (Base64.encode block) := by
  obtain ⟨letters, pad, split, within, nonempty⟩ := Base64.encode_split block
  have ordinary := letters_ordinary within
  obtain ⟨start, last, rfl⟩ :=
    (List.eq_nil_or_concat' letters).resolve_left (nonempty some_block)
  have plain : last ≠ '=' := by
    rintro rfl
    exact absurd (ordinary '=' (by simp)) (by decide)
  have escaped : escape '\\' special (Base64.encode block) =
      (start ++ [last]) ++ (List.replicate pad ['\\', '=']).flatten := by
    rw [split, escape_append, escape_eq_self ordinary, escape_replicate (by decide)]
  have stands : front ++ Base64.encode block =
      (front ++ start) ++ last :: List.replicate pad '=' := by
    rw [split]
    simp
  rw [stands, escapePad_append plain, escaped]
  simp

/-! ## The cover -/

/-- What is written is a file with one tag. -/
theorem ofList_eq_ffmetadata (value : List Char) :
    String.ofList (";FFMETADATA1\nMETADATA_BLOCK_PICTURE=".toList ++ value ++ ['\n']) =
      ffmetadata "METADATA_BLOCK_PICTURE" (String.ofList value) := by
  have opening : ";FFMETADATA1\nMETADATA_BLOCK_PICTURE=" =
      ";FFMETADATA1" ++ "\n" ++ ("METADATA_BLOCK_PICTURE" ++ "=") := by
    decide +kernel
  have ending : String.ofList ['\n'] = "\n" := rfl
  have file : ffmetadata "METADATA_BLOCK_PICTURE" (String.ofList value) =
      ";FFMETADATA1" ++ "\n" ++ ("METADATA_BLOCK_PICTURE" ++ "=" ++ String.ofList value) ++ "\n" :=
    rfl
  rw [opening, String.ofList_append, String.ofList_append, String.ofList_toList, ending, file]
  simp only [String.append_assoc]

theorem dimensions_lt {image : List UInt8} {dimensions : Option (Nat × Nat)} {width height : Nat}
    (scanned : imageDimensions image = .ok dimensions)
    (size : dimensions.getD (0, 0) = (width, height)) : width < 2 ^ 32 ∧ height < 2 ^ 32 := by
  cases dimensions with
  | none =>
      obtain ⟨rfl, rfl⟩ := Prod.mk.inj size
      decide
  | some found =>
      obtain rfl := size
      exact imageDimensions_lt scanned

/-- The embedded cover is read back as it was. -/
theorem flacPictureFfmetadata_embedded {encodeString : List UInt8 → String} (image : List UInt8)
    (standard : ∀ block, encodeString block = String.ofList (Base64.encode block))
    (short : image.length < 2 ^ 32) :
    ∃ dimensions width height mime value, imageDimensions image = .ok dimensions ∧
      dimensions.getD (0, 0) = (width, height) ∧ HasMime image mime ∧
      flacPictureFfmetadata encodeString image =
        .ok (ffmetadata "METADATA_BLOCK_PICTURE" (String.ofList value)) ∧
      Escaped '\\' (fun char => special char = false) (· = '=') value ∧
      embedded value = some
        { pictureType := 3, mime, description := [], width, height, depth := 24, colours := 0,
          data := image } := by
  obtain ⟨dimensions, scanned⟩ := imageDimensions_ok image
  obtain ⟨⟨width, height⟩, size⟩ : ∃ size, dimensions.getD (0, 0) = size := ⟨_, rfl⟩
  obtain ⟨narrow, low⟩ := dimensions_lt scanned size
  refine ⟨dimensions, width, height, mimeBytes image,
    escape '\\' special (Base64.encode (pictureBlock image width height)), scanned, size,
    hasMime_mimeBytes image, ?_, ?_, ?_⟩
  · have written : flacPictureFfmetadata encodeString image =
        .ok (String.ofList (escapePad (";FFMETADATA1\nMETADATA_BLOCK_PICTURE=" ++
          encodeString (pictureBlock image width height)).toList ++ ['\n'])) := by
      rw [flacPictureFfmetadata, scanned, ok_bind, size]
      rfl
    have encoded : (encodeString (pictureBlock image width height)).toList =
        Base64.encode (pictureBlock image width height) := by
      rw [standard, String.toList_ofList]
    rw [written, String.toList_append, encoded, escapePad_encode pictureBlock_ne_nil,
      ofList_eq_ffmetadata]
  · exact escaped_escape fun char member => eq_pad_of_special member
  · rw [embedded, unescape_escape (by decide), Base64.decode_encode, Option.bind_eq_bind,
      Option.bind_some, whole_pictureBlock short narrow low]

theorem magic_embedded :
    ∃ dimensions width height mime value,
      imageDimensions [0x89, 0x50, 0x4E, 0x47] = .ok dimensions ∧
      dimensions.getD (0, 0) = (width, height) ∧ HasMime [0x89, 0x50, 0x4E, 0x47] mime ∧
      flacPictureFfmetadata (fun block => String.ofList (Base64.encode block))
        [0x89, 0x50, 0x4E, 0x47] =
          .ok (ffmetadata "METADATA_BLOCK_PICTURE" (String.ofList value)) ∧
      Escaped '\\' (fun char => special char = false) (· = '=') value ∧
      embedded value = some
        { pictureType := 3, mime, description := [], width, height, depth := 24, colours := 0,
          data := [0x89, 0x50, 0x4E, 0x47] } :=
  flacPictureFfmetadata_embedded [0x89, 0x50, 0x4E, 0x47] (fun _ => rfl) (by decide)

end Togewire.Audio
