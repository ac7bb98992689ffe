import Togewire.Foundation.Octets

/-!
# Image dimensions

The dimensions of a cover are read off its header: at a fixed place in a PNG, and in a JPEG in the
first frame header, past segments of whatever length and content.
-/

namespace Togewire.Audio

open Octets

/-! ## The scan -/

/-- Skip the fill bytes before a marker. -/
def skipFill (data : List UInt8) : Nat → Nat → Scan Nat
  | 0, _ => .error .outOfFuel
  | fuel + 1, i => if data[i + 1]? = some 0xFF then skipFill data fuel (i + 1) else pure i

/-- Walk JPEG segments to the first SOF0-2 frame header. -/
def walkSegments (data : List UInt8) : Nat → Nat → Scan (Option (Nat × Nat))
  | 0, _ => .error .outOfFuel
  | fuel + 1, i =>
      if i + 8 < data.length then do
        if (← octetAt data i) = 0xFF then
          let i ← skipFill data data.length i
          if data.length ≤ i + 8 then
            pure none
          else
            let marker ← octetAt data (i + 1)
            if 0xC0 ≤ marker ∧ marker ≤ 0xC2 then
              let height ← numberAt data (i + 5) 2
              let width ← numberAt data (i + 7) 2
              pure (some (width, height))
            else if marker = 0xDA ∨ marker = 0xD9 then
              pure none
            else
              let len ← numberAt data (i + 2) 2
              if len < 2 then
                pure none
              else
                walkSegments data fuel (i + (2 + len))
        else
          pure none
      else
        pure none

/-- The first eight bytes of a PNG. -/
def pngSignature : List UInt8 := [0x89, 0x50, 0x4E, 0x47, 0x0D, 0x0A, 0x1A, 0x0A]

/-- The width and height in the header of an image. -/
def imageDimensions (data : List UInt8) : Scan (Option (Nat × Nat)) :=
  if pngSignature.isPrefixOf data ∧ 24 ≤ data.length then do
    let width ← numberAt data 16 4
    let height ← numberAt data 20 4
    pure (some (width, height))
  else if [0xFF, 0xD8].isPrefixOf data then
    walkSegments data data.length 2
  else
    pure none

/-! ## Every image is scanned to an end -/

section Total

variable {data : List UInt8} {fuel i : Nat}

theorem skipFill_ok (enough : data.length < fuel + i) (within : i < data.length) :
    ∃ stop, skipFill data fuel i = .ok stop ∧ i ≤ stop := by
  induction fuel generalizing i with
  | zero => omega
  | succ fuel ih =>
      by_cases filled : data[i + 1]? = some 0xFF
      · obtain ⟨inside, -⟩ := List.getElem?_eq_some_iff.mp filled
        obtain ⟨stop, skipped, later⟩ := ih (by omega) inside
        refine ⟨stop, ?_, by omega⟩
        rw [skipFill, if_pos filled, skipped]
      · refine ⟨i, ?_, Nat.le_refl i⟩
        rw [skipFill, if_neg filled]
        rfl

/-- Each segment is passed, and what is read of it is there. -/
theorem walkSegments_ok (some_fuel : 0 < fuel) (enough : data.length < fuel + i) (past : 2 ≤ i) :
    ∃ dimensions, walkSegments data fuel i = .ok dimensions := by
  induction fuel generalizing i with
  | zero => omega
  | succ fuel ih =>
      rw [walkSegments]
      by_cases room : i + 8 < data.length
      · obtain ⟨stop, skipped, later⟩ :=
          skipFill_ok (show data.length < data.length + i by omega)
            (show i < data.length by omega)
        rw [if_pos room, octetAt_of_lt (show i < data.length by omega), ok_bind, skipped, ok_bind]
        split
        · split
          · exact ⟨none, rfl⟩
          · rw [octetAt_of_lt (show stop + 1 < data.length by omega), ok_bind,
              numberAt_of_le (show stop + 5 + 2 ≤ data.length by omega), ok_bind,
              numberAt_of_le (show stop + 7 + 2 ≤ data.length by omega), ok_bind,
              numberAt_of_le (show stop + 2 + 2 ≤ data.length by omega), ok_bind]
            split
            · exact ⟨_, rfl⟩
            · split
              · exact ⟨none, rfl⟩
              · split
                · exact ⟨none, rfl⟩
                · exact ih (by omega) (by omega) (by omega)
        · exact ⟨none, rfl⟩
      · rw [if_neg room]
        exact ⟨none, rfl⟩

/-- Whatever the data, the scan ends, and reads nothing past them. -/
theorem imageDimensions_ok (data : List UInt8) :
    ∃ dimensions, imageDimensions data = .ok dimensions := by
  unfold imageDimensions
  split
  · rename_i png
    rw [numberAt_of_le (show 16 + 4 ≤ data.length by omega), ok_bind,
      numberAt_of_le (show 20 + 4 ≤ data.length by omega), ok_bind]
    exact ⟨_, rfl⟩
  · split
    · rename_i jpeg
      have long := (List.isPrefixOf_iff_prefix.mp jpeg).length_le
      simp only [List.length_cons, List.length_nil] at long
      exact walkSegments_ok (by omega) (by omega) (Nat.le_refl 2)
    · exact ⟨none, rfl⟩

theorem walkSegments_lt {width height : Nat}
    (found : walkSegments data fuel i = .ok (some (width, height))) :
    width < 2 ^ 16 ∧ height < 2 ^ 16 := by
  induction fuel generalizing i with
  | zero => cases found
  | succ fuel ih =>
      rw [walkSegments] at found
      split at found
      · obtain ⟨first, -, found⟩ := of_bind_eq_ok found
        split at found
        · obtain ⟨stop, -, found⟩ := of_bind_eq_ok found
          split at found
          · cases found
          · obtain ⟨marker, -, found⟩ := of_bind_eq_ok found
            split at found
            · obtain ⟨tall, read, found⟩ := of_bind_eq_ok found
              obtain ⟨wide, read', found⟩ := of_bind_eq_ok found
              obtain ⟨rfl, rfl⟩ := Prod.mk.inj (Option.some.inj (Except.ok.inj found))
              exact ⟨numberAt_lt read', numberAt_lt read⟩
            · split at found
              · cases found
              · obtain ⟨len, -, found⟩ := of_bind_eq_ok found
                split at found
                · cases found
                · exact ih found
        · cases found
      · cases found

theorem imageDimensions_lt {width height : Nat}
    (found : imageDimensions data = .ok (some (width, height))) :
    width < 2 ^ 32 ∧ height < 2 ^ 32 := by
  unfold imageDimensions at found
  split at found
  · obtain ⟨wide, read, found⟩ := of_bind_eq_ok found
    obtain ⟨tall, read', found⟩ := of_bind_eq_ok found
    obtain ⟨rfl, rfl⟩ := Prod.mk.inj (Option.some.inj (Except.ok.inj found))
    exact ⟨numberAt_lt read, numberAt_lt read'⟩
  · split at found
    · obtain ⟨narrow, low⟩ := walkSegments_lt found
      omega
    · cases found

end Total

/-! ## What a JPEG says -/

/-- A segment of a JPEG before its frame header. -/
structure Segment where
  /-- The fill bytes before the last one. -/
  fill : Nat
  marker : UInt8
  content : List UInt8
  plain : ¬(0xC0 ≤ marker ∧ marker ≤ 0xC2) ∧ marker ≠ 0xD9 ∧ marker ≠ 0xDA ∧ marker ≠ 0xFF
  short : content.length + 2 < 2 ^ 16

/-- A SOF0-2 frame header, up to the width. -/
structure FrameHeader where
  fill : Nat
  marker : UInt8
  length : UInt16
  precision : UInt8
  height : UInt16
  width : UInt16
  frame : 0xC0 ≤ marker ∧ marker ≤ 0xC2

/-- A marker may be filled with any number of `FF`. -/
def fillBytes (count : Nat) : List UInt8 := List.replicate (count + 1) 0xFF

/-- A segment as it is written: fill bytes, marker, length and content. -/
def Segment.bytes (segment : Segment) : List UInt8 :=
  fillBytes segment.fill ++
    segment.marker :: (bigEndian 2 (segment.content.length + 2) ++ segment.content)

/-- A frame header as it is written, up to the width. -/
def FrameHeader.bytes (header : FrameHeader) : List UInt8 :=
  fillBytes header.fill ++
    header.marker :: (bigEndian 2 header.length.toNat ++
      header.precision :: (bigEndian 2 header.height.toNat ++ bigEndian 2 header.width.toNat))

/-- A JPEG with segments before the frame header, and anything after it. -/
def jpeg (segments : List Segment) (header : FrameHeader) (rest : List UInt8) : List UInt8 :=
  [0xFF, 0xD8] ++ (segments.flatMap Segment.bytes ++ (header.bytes ++ rest))

section Jpeg

variable {front tail rest : List UInt8} {marker : UInt8} {fill fuel : Nat}

/-- The fill bytes are those before the marker. -/
theorem skipFill_fillBytes (plain : marker ≠ 0xFF) (enough : fill < fuel) :
    skipFill (front ++ (fillBytes fill ++ marker :: tail)) fuel front.length =
      .ok (front.length + fill) := by
  induction fill generalizing front fuel with
  | zero =>
      obtain ⟨fuel, rfl⟩ := Nat.exists_eq_succ_of_ne_zero (Nat.ne_of_gt enough)
      have next : (front ++ (fillBytes 0 ++ marker :: tail))[front.length + 1]? = some marker := by
        simp [fillBytes]
      rw [skipFill, next, if_neg (by simpa using plain)]
      rfl
  | succ fill ih =>
      obtain ⟨fuel, rfl⟩ := Nat.exists_eq_succ_of_ne_zero (Nat.ne_of_gt (Nat.zero_lt_of_lt enough))
      have moved : front ++ (fillBytes (fill + 1) ++ marker :: tail) =
          (front ++ [0xFF]) ++ (fillBytes fill ++ marker :: tail) := by
        simp [fillBytes, List.replicate_succ]
      have next : (front ++ (fillBytes (fill + 1) ++ marker :: tail))[front.length + 1]? =
          some 0xFF := by
        simp [fillBytes, List.replicate_succ]
      have skipped : skipFill ((front ++ [0xFF]) ++ (fillBytes fill ++ marker :: tail)) fuel
          (front ++ [0xFF]).length = .ok ((front ++ [0xFF]).length + fill) := ih (by omega)
      rw [List.length_append, List.length_singleton, Nat.add_assoc, Nat.add_comm 1 fill] at skipped
      rw [skipFill, if_pos next, moved, skipped]

theorem walkSegments_marker (plain : marker ≠ 0xFF) (long : 7 ≤ tail.length) {data : List UInt8}
    (stands : data = front ++ (fillBytes fill ++ marker :: tail)) :
    walkSegments data (fuel + 1) front.length =
      (if 0xC0 ≤ marker ∧ marker ≤ 0xC2 then do
        let height ← numberAt data (front.length + fill + 5) 2
        let width ← numberAt data (front.length + fill + 7) 2
        pure (some (width, height))
      else if marker = 0xDA ∨ marker = 0xD9 then
        pure none
      else do
        let len ← numberAt data (front.length + fill + 2) 2
        if len < 2 then
          pure none
        else
          walkSegments data fuel (front.length + fill + (2 + len))) := by
  have size : data.length = front.length + (fill + 1 + (tail.length + 1)) := by
    rw [stands]
    simp [fillBytes]
  have first : octetAt data front.length = .ok 0xFF := by
    rw [stands, fillBytes, List.replicate_succ, List.cons_append, octetAt_length]
  have skipped : skipFill data data.length front.length = .ok (front.length + fill) := by
    rw [stands]
    apply skipFill_fillBytes plain
    rw [← stands]
    omega
  have marked : octetAt data (front.length + fill + 1) = .ok marker := by
    have split : data = (front ++ fillBytes fill) ++ marker :: tail := by
      rw [stands, List.append_assoc]
    have position : (front ++ fillBytes fill).length = front.length + fill + 1 := by
      simp [fillBytes, Nat.add_assoc]
    rw [split, ← position, octetAt_length]
  rw [walkSegments, if_pos (by omega), first, ok_bind, if_pos rfl, skipped, ok_bind,
    if_neg (by omega), marked, ok_bind]

/-- A segment is passed, whatever its content. -/
theorem walkSegments_segment (segment : Segment) (long : 9 ≤ rest.length) {data : List UInt8}
    (stands : data = front ++ (segment.bytes ++ rest)) :
    walkSegments data (fuel + 1) front.length =
      walkSegments data fuel (front ++ segment.bytes).length := by
  obtain ⟨notFrame, notEnd, notScan, notFill⟩ := segment.plain
  have marked : data = front ++ (fillBytes segment.fill ++
      segment.marker ::
        (bigEndian 2 (segment.content.length + 2) ++ (segment.content ++ rest))) := by
    rw [stands, Segment.bytes]
    simp
  have measured : numberAt data (front.length + segment.fill + 2) 2 =
      .ok (segment.content.length + 2) := by
    have split : data = (front ++ (fillBytes segment.fill ++ [segment.marker])) ++
        (bigEndian 2 (segment.content.length + 2) ++ (segment.content ++ rest)) := by
      rw [marked]
      simp
    have position : (front ++ (fillBytes segment.fill ++ [segment.marker])).length =
        front.length + segment.fill + 2 := by
      simp [fillBytes, Nat.add_assoc]
    rw [split, ← position, numberAt_length segment.short]
  have passed : (front ++ segment.bytes).length =
      front.length + segment.fill + (2 + (segment.content.length + 2)) := by
    simp only [Segment.bytes, fillBytes, List.length_append, List.length_replicate,
      List.length_cons, length_bigEndian]
    omega
  rw [walkSegments_marker notFill (by simp; omega) marked, if_neg notFrame,
    if_neg (not_or.mpr ⟨notScan, notEnd⟩), measured, ok_bind, if_neg (by omega), passed]

theorem walkSegments_header (header : FrameHeader) {data : List UInt8}
    (stands : data = front ++ (header.bytes ++ rest)) :
    walkSegments data (fuel + 1) front.length =
      .ok (some (header.width.toNat, header.height.toNat)) := by
  have notFill : header.marker ≠ 0xFF := by
    intro same
    have upper := header.frame.2
    rw [same] at upper
    exact absurd upper (by decide)
  have marked : data = front ++ (fillBytes header.fill ++ header.marker ::
      (bigEndian 2 header.length.toNat ++ header.precision ::
        (bigEndian 2 header.height.toNat ++ (bigEndian 2 header.width.toNat ++ rest)))) := by
    rw [stands, FrameHeader.bytes]
    simp
  have height : numberAt data (front.length + header.fill + 5) 2 = .ok header.height.toNat := by
    have split : data = (front ++ (fillBytes header.fill ++ header.marker ::
        (bigEndian 2 header.length.toNat ++ [header.precision]))) ++
          (bigEndian 2 header.height.toNat ++ (bigEndian 2 header.width.toNat ++ rest)) := by
      rw [marked]
      simp
    have position : (front ++ (fillBytes header.fill ++ header.marker ::
        (bigEndian 2 header.length.toNat ++ [header.precision]))).length =
          front.length + header.fill + 5 := by
      simp [fillBytes, Nat.add_assoc]
    rw [split, ← position, numberAt_length header.height.toNat_lt]
  have width : numberAt data (front.length + header.fill + 7) 2 = .ok header.width.toNat := by
    have split : data = (front ++ (fillBytes header.fill ++ header.marker ::
        (bigEndian 2 header.length.toNat ++ header.precision ::
          bigEndian 2 header.height.toNat))) ++ (bigEndian 2 header.width.toNat ++ rest) := by
      rw [marked]
      simp
    have position : (front ++ (fillBytes header.fill ++ header.marker ::
        (bigEndian 2 header.length.toNat ++ header.precision ::
          bigEndian 2 header.height.toNat))).length = front.length + header.fill + 7 := by
      simp [fillBytes, Nat.add_assoc]
    rw [split, ← position, numberAt_length header.width.toNat_lt]
  rw [walkSegments_marker notFill (by simp; omega) marked, if_pos header.frame, height, ok_bind,
    width, ok_bind]
  rfl

theorem length_bytes_pos (segment : Segment) : 0 < segment.bytes.length := by
  simp [Segment.bytes, fillBytes]

theorem length_header_bytes (header : FrameHeader) : 9 ≤ header.bytes.length := by
  simp [FrameHeader.bytes, fillBytes]

/-- The walk gets through all segments to the header. -/
theorem walkSegments_jpeg (segments : List Segment) (header : FrameHeader)
    (enough : segments.length < fuel) {data : List UInt8}
    (stands : data = front ++ (segments.flatMap Segment.bytes ++ (header.bytes ++ rest))) :
    walkSegments data fuel front.length =
      .ok (some (header.width.toNat, header.height.toNat)) := by
  induction segments generalizing front fuel with
  | nil =>
      obtain ⟨fuel, rfl⟩ := Nat.exists_eq_succ_of_ne_zero (Nat.ne_of_gt enough)
      exact walkSegments_header header stands
  | cons segment segments ih =>
      obtain ⟨fuel, rfl⟩ := Nat.exists_eq_succ_of_ne_zero (Nat.ne_of_gt (Nat.zero_lt_of_lt enough))
      have headed : data = front ++ (segment.bytes ++
          (segments.flatMap Segment.bytes ++ (header.bytes ++ rest))) := by
        rw [stands]
        simp
      have header_long := length_header_bytes header
      rw [walkSegments_segment segment (by simp; omega) headed]
      apply ih (Nat.lt_of_succ_lt_succ enough)
      rw [headed]
      simp

theorem length_le_flatMap_bytes (segments : List Segment) :
    segments.length ≤ (segments.flatMap Segment.bytes).length := by
  induction segments with
  | nil => simp
  | cons segment segments ih =>
      have positive := length_bytes_pos segment
      simp only [List.flatMap_cons, List.length_cons, List.length_append]
      omega

end Jpeg

/-- Every scan ends within the data, and one of a JPEG with the size its frame header gives. -/
theorem imageDimensions_exact :
    (∀ data, ∃ dimensions, imageDimensions data = .ok dimensions) ∧
      ∀ segments (header : FrameHeader) rest, imageDimensions (jpeg segments header rest) =
        .ok (some (header.width.toNat, header.height.toNat)) := by
  refine ⟨imageDimensions_ok, fun segments header rest => ?_⟩
  have notPng : ¬(pngSignature.isPrefixOf (jpeg segments header rest) ∧
      24 ≤ (jpeg segments header rest).length) := by
    rintro ⟨png, -⟩
    simp [pngSignature, jpeg] at png
  have starts : [0xFF, 0xD8].isPrefixOf (jpeg segments header rest) = true := by
    simp [jpeg]
  have enough : segments.length < (jpeg segments header rest).length := by
    have fewer := length_le_flatMap_bytes segments
    simp only [jpeg, List.length_append, List.length_cons, List.length_nil]
    omega
  rw [imageDimensions, if_neg notPng, if_pos starts]
  have past : ([0xFF, 0xD8] : List UInt8).length = 2 := rfl
  rw [← past]
  exact walkSegments_jpeg segments header enough rfl

/-- A frame header within a segment is none of the image. -/
example :
    imageDimensions
      [0xFF, 0xD8, 0xFF, 0xE0, 0, 11, 0xFF, 0xC0, 0, 11, 8, 0, 9, 0, 9, 0xFF, 0xFF, 0xC2, 0, 11, 8,
        0, 2, 0, 3] = .ok (some (3, 2)) := by
  decide +kernel

end Togewire.Audio
