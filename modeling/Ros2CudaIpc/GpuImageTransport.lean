import Ros2CudaIpc.DeviceViews

/-!
# The CPU bridge nodes

Both nodes copy an image's buffer to the host and hand it on in a format of
interleaved rows: the raw node as the bytes of a `sensor_msgs` image, the compressed
node as a `cv::Mat` over the copy. Their checks look at the row stride and at the
size of the rows together. The format has one place for a column and a channel; the
image's own strides may put them elsewhere.

OpenCV is a parameter: the type it makes for a number of channels, the channels a
matrix of a type has, and whether the matrix constructor accepts its arguments.
-/

namespace Ros2CudaIpc

/-- What the CUDA runtime answers to one copy to the host: the pinned buffer, the copy, and the
synchronisation behind it. -/
structure CopyOutcomes where
  pinned : Bool
  copied : Bool
  synchronized : Bool
deriving DecidableEq, Repr

/-- `GpuImageTransportNodeBase::on_image`: the copy holds the buffer's bytes, and `publishFrame`
is the node's own. A failed answer ends the call without a message. -/
def GpuImageTransportNodeBase.onImage {β : Type} (outcomes : CopyOutcomes)
    (image : ImageReadHandle) (hostBuffer : Vector UInt8 image.read.byteSize.toNat)
    (publishFrame : (availableBytes : UInt64) → Vector UInt8 availableBytes.toNat → Option β) :
    Option β :=
  if image.read.valid = false then none
  else if image.sanityCheck = false then none
  else if image.read.byteSize = 0 then none
  else if outcomes.pinned = false then none
  else if outcomes.copied = false then none
  else if outcomes.synchronized = false then none
  else publishFrame image.read.byteSize hostBuffer

/-- `std::numeric_limits<std::size_t>::max()`, against which the sum of the rows is checked before
it is formed. -/
def sizeMax : UInt64 := 18446744073709551615

/-- `std::numeric_limits<int>::max()` as a 32-bit word, the largest dimension a matrix is made
with. -/
def intMax : UInt32 := 2147483647

/-- The checks both `publish_frame`s begin with, and the bytes of all rows. The last row counts as
a whole step. -/
def requiredBytes (image : ImageReadHandle) (availableBytes : UInt64) : Option UInt64 :=
  let height := image.rows
  let stepBytes := image.strideH
  if height = 0 ∨ stepBytes = 0 then none
  else if uint32Max < stepBytes.toNat then none
  else if 0 < height ∧ sizeMax / height.toUInt64 < stepBytes then none
  else
    let required := stepBytes * height.toUInt64
    if availableBytes < required then none else some required

namespace GpuImageTransportNode

/-- `sensor_msgs::msg::Image`, whose data is rows of `step` bytes in the order of the encoding. -/
structure Image where
  header : Header
  height : UInt32
  width : UInt32
  encoding : String
  isBigendian : UInt8
  step : UInt32
  data : List UInt8
deriving DecidableEq, Repr

/-- `infer_encoding`: the encoding of a message without one, from the dtype and the number of
channels. -/
def inferEncoding (image : ImageReadHandle) : String :=
  let channels := image.channels
  let suffix := toString channels.toNat
  match image.dtype with
  | .u8 =>
    if channels = 1 then "mono8"
    else if channels = 3 then "rgb8"
    else if channels = 4 then "rgba8"
    else "8UC" ++ suffix
  | .u16 => if channels = 1 then "mono16" else "16UC" ++ suffix
  | .f16 => "16FC" ++ suffix
  | .f32 => "32FC" ++ suffix
  | .f64 => "64FC" ++ suffix
  | .s16 => "16SC" ++ suffix
  | .s32 => "32SC" ++ suffix
  | .u32 => "32UC" ++ suffix
  | .unnamed _ => "8UC" ++ suffix

/-- `publish_frame` of the raw node: the message it publishes, if any. It looks at no stride but
that of the rows. -/
def publishFrame (image : ImageReadHandle) (availableBytes : UInt64)
    (hostBuffer : Vector UInt8 availableBytes.toNat) : Option Image :=
  match requiredBytes image availableBytes with
  | none => none
  | some required =>
    some
      { header := image.header
        height := image.rows
        width := image.cols
        encoding := if image.encoding = "" then inferEncoding image else image.encoding
        isBigendian := 0
        step := image.strideH.toUInt32
        data := hostBuffer.toList.take required.toNat }

end GpuImageTransportNode

/-- What the compressed node uses of OpenCV for 8-bit matrices, with what its documentation
promises. `CV_CN_MAX` is 512. -/
structure OpenCv where
  makeType : Int32 → Int32
  channelsOf : Int32 → Nat
  accepts : (rows cols type : Int32) → (step : UInt64) → Bool
  channels_makeType : ∀ channels : Int32, 1 ≤ channels.toInt → channels.toInt ≤ 512 →
    (channelsOf (makeType channels) : Int) = channels.toInt
  channelsOf_le : ∀ type, channelsOf type ≤ 512

namespace GpuImageTransportCompressedNode

/-- `cv::Mat` over the copy: the dimensions, the type, and rows of `step` bytes. -/
structure Mat where
  rows : Int32
  cols : Int32
  type : Int32
  data : List UInt8
  step : UInt64
deriving DecidableEq, Repr

/-- `to_lower`, character by character; the formats in question are ASCII. -/
def toLower (value : String) : String := value.map Char.toLower

/-- `select_extension`: the extension by which OpenCV chooses its encoder, empty for a format the
node does not know. -/
def selectExtension (formatLower : String) : String :=
  if formatLower = "jpeg" ∨ formatLower = "jpg" then ".jpg"
  else if formatLower = "png" then ".png"
  else if formatLower = "bmp" then ".bmp"
  else ""

/-- `publish_frame` of the compressed node up to the matrix it wraps. What follows
are calls of OpenCV on that matrix. -/
def publishFrame (cv : OpenCv) (compressedFormat : String) (image : ImageReadHandle)
    (availableBytes : UInt64) (hostBuffer : Vector UInt8 availableBytes.toNat) : Option Mat :=
  match requiredBytes image availableBytes with
  | none => none
  | some _ =>
    if image.dtype ≠ .u8 then none
    else
      let channels := image.channels.toInt32
      if channels ≤ 0 then none
      else
        let cvType := cv.makeType channels
        if cvType < 0 then none
        else if selectExtension (toLower compressedFormat) = "" then none
        else if intMax < image.cols ∨ intMax < image.rows then none
        else if cv.accepts image.rows.toInt32 image.cols.toInt32 cvType
            image.strideH = false then none
        else
          some ⟨image.rows.toInt32, image.cols.toInt32, cvType, hostBuffer.toList,
            image.strideH⟩

end GpuImageTransportCompressedNode

/-- Where interleaved rows put an element: its channels side by side, its columns behind each
other, its rows a step apart. -/
def interleavedOffset (step channels elementSize row column channel : Nat) : Nat :=
  row * step + (column * channels + channel) * elementSize

/-- Where the image has an element, by its own three strides. -/
def sourceOffset (image : ImageReadHandle) (row column channel : Nat) : Nat :=
  row * image.strideH.toNat + column * image.strideW.toNat +
    channel * image.strideC.toNat

/-- The column stride is that of interleaved channels, and the channel stride that of
adjacent elements, wherever there is a second one to stride to. -/
structure Interleaved (image : ImageReadHandle) : Prop where
  columns : 1 < image.cols.toNat →
    image.strideW.toNat = image.channels.toNat * image.dtype.elemSizeBytes.toNat
  channels : 1 < image.channels.toNat →
    image.strideC.toNat = image.dtype.elemSizeBytes.toNat

/-- The raw message shows the image: its rows hold their elements, and every element
lies in the copy and in the message's data, at the offset it has in the image. -/
structure RawShows (image : ImageReadHandle) (hostBuffer : List UInt8)
    (message : GpuImageTransportNode.Image) : Prop where
  row : image.cols.toNat * image.channels.toNat * image.dtype.elemSizeBytes.toNat ≤
    message.step.toNat
  element : ∀ row column channel, row < image.rows.toNat → column < image.cols.toNat →
    channel < image.channels.toNat →
      let place := interleavedOffset message.step.toNat image.channels.toNat
        image.dtype.elemSizeBytes.toNat row column channel
      place + image.dtype.elemSizeBytes.toNat ≤ image.read.byteSize.toNat ∧
        place + image.dtype.elemSizeBytes.toNat ≤ message.data.length ∧
        place = sourceOffset image row column channel ∧
        ∀ byte < image.dtype.elemSizeBytes.toNat, message.data[place + byte]? =
          hostBuffer[sourceOffset image row column channel + byte]?

/-- The matrix shows the image: it has its rows, columns and channels, and every
element lies in the copy, at the offset it has in the image. -/
structure MatShows (cv : OpenCv) (image : ImageReadHandle) (hostBuffer : List UInt8)
    (mat : GpuImageTransportCompressedNode.Mat) : Prop where
  shape : mat.rows.toInt = image.rows.toNat ∧ mat.cols.toInt = image.cols.toNat ∧
    cv.channelsOf mat.type = image.channels.toNat
  data : mat.data = hostBuffer
  element : ∀ row column channel, row < image.rows.toNat → column < image.cols.toNat →
    channel < image.channels.toNat →
      let place := interleavedOffset mat.step.toNat (cv.channelsOf mat.type)
        image.dtype.elemSizeBytes.toNat row column channel
      place + image.dtype.elemSizeBytes.toNat ≤ image.read.byteSize.toNat ∧
        place = sourceOffset image row column channel

variable {image : ImageReadHandle} {availableBytes required : UInt64}

/-- The rows asked for are counted exactly and available, and a row's step is a
32-bit word. -/
theorem requiredBytes_some (enough : requiredBytes image availableBytes = some required) :
    image.strideH.toNat < 2 ^ 32 ∧
      required.toNat = image.rows.toNat * image.strideH.toNat ∧
      required.toNat ≤ availableBytes.toNat := by
  have limit : sizeMax.toNat = 2 ^ 64 - 1 := by decide
  simp only [requiredBytes] at enough
  split at enough
  · simp at enough
  next shaped =>
  split at enough
  · simp at enough
  next narrow =>
  split at enough
  · simp at enough
  next fits =>
  split at enough
  · simp at enough
  next available =>
  obtain rfl := Option.some.inj enough
  simp only [not_or, ← UInt32.toNat_inj, UInt32.toNat_zero] at shaped
  have tall : 0 < image.rows.toNat := by omega
  have quotient : image.strideH.toNat ≤ (2 ^ 64 - 1) / image.rows.toNat := by
    have small := not_and.mp fits (UInt32.lt_iff_toNat_lt.mpr tall)
    rw [UInt64.lt_iff_toNat_lt, UInt64.toNat_div, limit, UInt32.toNat_toUInt64] at small
    omega
  have product := (Nat.le_div_iff_mul_le tall).mp quotient
  have exact_ : (image.strideH * image.rows.toUInt64).toNat =
      image.strideH.toNat * image.rows.toNat := by
    rw [UInt64.toNat_mul, UInt32.toNat_toUInt64, Nat.mod_eq_of_lt (by omega)]
  have word : uint32Max = 2 ^ 32 - 1 := by decide
  refine ⟨by omega, ?_, UInt64.le_iff_toNat_le.mp (UInt64.not_lt.mp available)⟩
  rw [exact_, Nat.mul_comm]

/-- A node publishes only images which passed the check and were copied. This is where the
nodes' own frames get the check from; `publish_frame` does not repeat it. -/
theorem onImage_checked {β : Type} {outcomes : CopyOutcomes}
    {hostBuffer : Vector UInt8 image.read.byteSize.toNat}
    {publishFrame : (availableBytes : UInt64) → Vector UInt8 availableBytes.toNat → Option β}
    {published : β} (called : GpuImageTransportNodeBase.onImage outcomes image hostBuffer
      publishFrame = some published) :
    image.sanityCheck = true ∧
      publishFrame image.read.byteSize hostBuffer = some published := by
  unfold GpuImageTransportNodeBase.onImage at called
  split at called
  · cases called
  split at called
  · cases called
  next checked =>
  split at called
  · cases called
  split at called
  · cases called
  split at called
  · cases called
  split at called
  · cases called
  · exact ⟨(Bool.not_eq_false _).mp checked, called⟩

/-- In a nonempty shape the two layouts agree exactly when the strides are those of
interleaved rows. The second column and the second channel decide it. -/
theorem offsets_agree_iff (nonzero : image.rows.toNat ≠ 0 ∧ image.cols.toNat ≠ 0 ∧
    image.channels.toNat ≠ 0) :
    (∀ row column channel, row < image.rows.toNat → column < image.cols.toNat →
      channel < image.channels.toNat →
        interleavedOffset image.strideH.toNat image.channels.toNat
            image.dtype.elemSizeBytes.toNat row column channel =
          sourceOffset image row column channel) ↔ Interleaved image := by
  constructor
  · intro agree
    constructor
    · intro many
      have second := agree 0 1 0 (by omega) many (by omega)
      simp only [interleavedOffset, sourceOffset, Nat.zero_mul, Nat.one_mul, Nat.zero_add,
        Nat.add_zero] at second
      exact second.symm
    · intro many
      have second := agree 0 0 1 (by omega) (by omega) many
      simp only [interleavedOffset, sourceOffset, Nat.zero_mul, Nat.one_mul, Nat.zero_add]
        at second
      exact second.symm
  · intro interleaved row column channel _ columnInside channelInside
    have columns : column * image.strideW.toNat =
        column * (image.channels.toNat * image.dtype.elemSizeBytes.toNat) := by
      by_cases many : 1 < image.cols.toNat
      · rw [interleaved.columns many]
      · have first : column = 0 := by omega
        rw [first, Nat.zero_mul, Nat.zero_mul]
    have channels : channel * image.strideC.toNat =
        channel * image.dtype.elemSizeBytes.toNat := by
      by_cases many : 1 < image.channels.toNat
      · rw [interleaved.channels many]
      · have first : channel = 0 := by omega
        rw [first, Nat.zero_mul, Nat.zero_mul]
    rw [interleavedOffset, sourceOffset, columns, channels, Nat.add_mul, Nat.mul_assoc,
      Nat.add_assoc]

/-- An element of a row which holds its elements ends inside the row, and so inside the bytes of
all rows. -/
theorem interleavedOffset_end {rows step columns channels elementSize row column channel : Nat}
    (holds : columns * channels * elementSize ≤ step) (rowInside : row < rows)
    (columnInside : column < columns) (channelInside : channel < channels) :
    interleavedOffset step channels elementSize row column channel + elementSize ≤
      rows * step := by
  have cell : column * channels + channel + 1 ≤ columns * channels := by
    have next : (column + 1) * channels ≤ columns * channels := Nat.mul_le_mul_right _ columnInside
    rw [Nat.succ_mul] at next
    omega
  have bytes : (column * channels + channel + 1) * elementSize ≤ columns * channels * elementSize :=
    Nat.mul_le_mul_right _ cell
  have later := StridedLayout.apart_along (Nat.le_refl step) rowInside
  rw [Nat.succ_mul] at bytes
  unfold interleavedOffset
  omega

/-- The raw node shows a checked image exactly when its strides are interleaved and
a row holds its elements. -/
theorem rawShows_iff (checked : image.sanityCheck = true)
    {hostBuffer : Vector UInt8 image.read.byteSize.toNat} {message : GpuImageTransportNode.Image}
    (published : GpuImageTransportNode.publishFrame image image.read.byteSize hostBuffer =
      some message) :
    RawShows image hostBuffer.toList message ↔
      Interleaved image ∧ image.cols.toNat * image.channels.toNat *
        image.dtype.elemSizeBytes.toNat ≤ image.strideH.toNat := by
  obtain ⟨nonzero, inside⟩ := ImageReadHandle.sanityCheck_elements checked
  unfold GpuImageTransportNode.publishFrame at published
  split at published
  · simp at published
  next required enough =>
  obtain ⟨narrow, counted, available⟩ := requiredBytes_some enough
  obtain rfl := Option.some.inj published
  have step : image.strideH.toUInt32.toNat = image.strideH.toNat := by
    rw [UInt64.toNat_toUInt32, Nat.mod_eq_of_lt narrow]
  have sized : (hostBuffer.toList.take required.toNat).length = required.toNat := by
    rw [List.length_take, Vector.length_toList, Nat.min_eq_left available]
  constructor
  · intro shows
    have holds := shows.row
    rw [step] at holds
    refine ⟨(offsets_agree_iff nonzero).mp ?_, holds⟩
    intro row column channel rowInside columnInside channelInside
    have same := (shows.element row column channel rowInside columnInside channelInside).2.2.1
    rw [step] at same
    exact same
  · intro interleaved
    obtain ⟨strided, holds⟩ := interleaved
    refine ⟨by rw [step]; exact holds, ?_⟩
    intro row column channel rowInside columnInside channelInside
    have same := (offsets_agree_iff nonzero).mpr strided row column channel rowInside columnInside
      channelInside
    have source := inside row column channel rowInside columnInside channelInside
    have end_ := interleavedOffset_end holds rowInside columnInside channelInside
    simp only [step]
    refine ⟨?_, ?_, same, fun byte small => ?_⟩
    · rw [same]
      exact source
    · rw [sized, counted]
      exact end_
    · rw [List.getElem?_take_of_lt (by omega), same]

/-- The compressed node's matrix shows a checked image exactly when its strides are
interleaved and OpenCV has as many channels. -/
theorem matShows_iff {cv : OpenCv} {compressedFormat : String} (checked : image.sanityCheck = true)
    {hostBuffer : Vector UInt8 image.read.byteSize.toNat}
    {mat : GpuImageTransportCompressedNode.Mat}
    (wrapped : GpuImageTransportCompressedNode.publishFrame cv compressedFormat image
      image.read.byteSize hostBuffer = some mat) :
    MatShows cv image hostBuffer.toList mat ↔
      Interleaved image ∧ image.channels.toNat ≤ 512 := by
  obtain ⟨nonzero, inside⟩ := ImageReadHandle.sanityCheck_elements checked
  simp only [GpuImageTransportCompressedNode.publishFrame] at wrapped
  split at wrapped
  · simp at wrapped
  split at wrapped
  · simp at wrapped
  split at wrapped
  · simp at wrapped
  next positive =>
  split at wrapped
  · simp at wrapped
  split at wrapped
  · simp at wrapped
  split at wrapped
  · simp at wrapped
  next ints =>
  split at wrapped
  · simp at wrapped
  obtain rfl := Option.some.inj wrapped
  have limit : intMax.toNat = 2 ^ 31 - 1 := by decide
  simp only [not_or, UInt32.not_lt, UInt32.le_iff_toNat_le, limit] at ints
  have rows : image.rows.toInt32.toInt = image.rows.toNat :=
    (toInt32_eq_iff _).mpr (by omega)
  have cols : image.cols.toInt32.toInt = image.cols.toNat :=
    (toInt32_eq_iff _).mpr (by omega)
  have channels : image.channels.toInt32.toInt = image.channels.toNat := by
    rw [toInt32_eq_iff]
    have counted := toInt32_toInt image.channels
    rw [Int32.le_iff_toInt_le] at positive
    have zero : (0 : Int32).toInt = 0 := by decide
    have sized := image.channels.toNat_lt
    split at counted <;> omega
  constructor
  · intro shows
    have same := shows.shape.2.2
    refine ⟨(offsets_agree_iff nonzero).mp ?_, same ▸ cv.channelsOf_le _⟩
    intro row column channel rowInside columnInside channelInside
    have agree := (shows.element row column channel rowInside columnInside channelInside).2
    simp only [same] at agree
    exact agree
  · intro interleaved
    obtain ⟨strided, few⟩ := interleaved
    have same : cv.channelsOf (cv.makeType image.channels.toInt32) = image.channels.toNat := by
      have made := cv.channels_makeType image.channels.toInt32 (by omega) (by omega)
      omega
    refine ⟨⟨rows, cols, same⟩, rfl, ?_⟩
    intro row column channel rowInside columnInside channelInside
    have agree := (offsets_agree_iff nonzero).mpr strided row column channel rowInside columnInside
      channelInside
    have source := inside row column channel rowInside columnInside channelInside
    simp only [same]
    exact ⟨by rw [agree]; exact source, agree⟩

/-- What either node publishes or wraps for an image it was sent shows the image under the same
conditions, whatever the runtime answered on the way. That the image was checked is no
condition here: `on_image` has done it whenever there is anything to show. -/
theorem onImage_shows_iff (cv : OpenCv) (outcomes : CopyOutcomes) (image : ImageReadHandle)
    (hostBuffer : Vector UInt8 image.read.byteSize.toNat) :
    (∀ message, GpuImageTransportNodeBase.onImage outcomes image hostBuffer
        (GpuImageTransportNode.publishFrame image) = some message →
      (RawShows image hostBuffer.toList message ↔
        Interleaved image ∧ image.cols.toNat * image.channels.toNat *
          image.dtype.elemSizeBytes.toNat ≤ image.strideH.toNat)) ∧
    (∀ compressedFormat mat, GpuImageTransportNodeBase.onImage outcomes image hostBuffer
        (GpuImageTransportCompressedNode.publishFrame cv compressedFormat image) = some mat →
      (MatShows cv image hostBuffer.toList mat ↔
        Interleaved image ∧ image.channels.toNat ≤ 512)) := by
  refine ⟨fun message called => ?_, fun compressedFormat mat called => ?_⟩
  · obtain ⟨checked, published⟩ := onImage_checked called
    exact rawShows_iff checked published
  · obtain ⟨checked, wrapped⟩ := onImage_checked called
    exact matShows_iff checked wrapped

/-- Over one copy of a checked image's buffer: what the raw node publishes shows the
image exactly when the strides are interleaved and a row holds its elements, and what
the compressed node wraps does exactly when the strides are interleaved and OpenCV
has as many channels. -/
theorem bridges_show_iff (cv : OpenCv) (image : ImageReadHandle)
    (checked : image.sanityCheck = true) (hostBuffer : Vector UInt8 image.read.byteSize.toNat) :
    (∀ message, GpuImageTransportNode.publishFrame image image.read.byteSize hostBuffer =
        some message →
      (RawShows image hostBuffer.toList message ↔
        Interleaved image ∧ image.cols.toNat * image.channels.toNat *
          image.dtype.elemSizeBytes.toNat ≤ image.strideH.toNat)) ∧
    (∀ compressedFormat mat, GpuImageTransportCompressedNode.publishFrame cv compressedFormat image
        image.read.byteSize hostBuffer = some mat →
      (MatShows cv image hostBuffer.toList mat ↔
        Interleaved image ∧ image.channels.toNat ≤ 512)) :=
  ⟨fun _ published => rawShows_iff checked published,
    fun _ _ wrapped => matShows_iff checked wrapped⟩

/-- The macros of OpenCV on 8-bit types, and the constructor's check that a step
holds a row. -/
def openCvMacros : OpenCv where
  makeType channels := Int32.ofInt (8 * (channels.toInt - 1))
  channelsOf type := (type.toInt / 8 % 512).toNat + 1
  accepts _ cols type step := cols.toInt * ((type.toInt / 8 % 512) + 1) ≤ step.toNat
  channels_makeType channels positive few := by
    rw [Int32.toInt_ofInt_of_le (by omega) (by omega)]
    omega
  channelsOf_le type := by
    omega

/-- A two by two image of three bytes a pixel, in a buffer of twelve bytes, with given strides. -/
def colourImage (strides : Vector UInt64 3) : ImageReadHandle :=
  ⟨⟨0, 0, "camera"⟩, boundRead 12, #v[2, 2, 3], strides, .u8, "rgb8"⟩

/-- The copy of its buffer, with every byte at its own offset, so that a byte shows where it was
read. -/
def countedBytes : Vector UInt8 12 := #v[0, 1, 2, 3, 4, 5, 6, 7, 8, 9, 10, 11]

/-- The message the raw node makes of the image, whichever strides its columns and channels have. -/
def colourMessage : GpuImageTransportNode.Image :=
  ⟨⟨0, 0, "camera"⟩, 2, 2, "rgb8", 0, 6, countedBytes.toList⟩

/-- The matrix the compressed node makes of the image, whichever strides its columns and channels
have. -/
def colourMat : GpuImageTransportCompressedNode.Mat := ⟨2, 2, 16, countedBytes.toList, 6⟩

/-- Both nodes show the image when its pixels are interleaved: with six bytes a row, three a pixel
and one a channel. -/
theorem bridges_show_interleaved : (colourImage #v[6, 3, 1]).sanityCheck = true ∧
    GpuImageTransportNode.publishFrame (colourImage #v[6, 3, 1]) 12 countedBytes =
      some colourMessage ∧
    RawShows (colourImage #v[6, 3, 1]) countedBytes.toList colourMessage ∧
    GpuImageTransportCompressedNode.publishFrame openCvMacros "PNG" (colourImage #v[6, 3, 1]) 12
      countedBytes = some colourMat ∧
    MatShows openCvMacros (colourImage #v[6, 3, 1]) countedBytes.toList colourMat := by
  have checked : (colourImage #v[6, 3, 1]).sanityCheck = true := by decide +kernel
  have interleaved : Interleaved (colourImage #v[6, 3, 1]) := ⟨by decide, by decide⟩
  obtain ⟨raw, compressed⟩ := bridges_show_iff openCvMacros (colourImage #v[6, 3, 1]) checked
    countedBytes
  have published : GpuImageTransportNode.publishFrame (colourImage #v[6, 3, 1]) 12 countedBytes =
      some colourMessage := by decide +kernel
  have wrapped : GpuImageTransportCompressedNode.publishFrame openCvMacros "PNG"
      (colourImage #v[6, 3, 1]) 12 countedBytes = some colourMat := by decide +kernel
  exact ⟨checked, published, (raw _ published).mpr ⟨interleaved, by decide⟩, wrapped,
    (compressed _ _ wrapped).mpr ⟨interleaved, by decide⟩⟩

/-- With one plane of a channel behind the other in every row the image passes every
check of both nodes, and is shown with its colours mixed: the second channel of the
first pixel is taken from the second pixel. -/
theorem plane_shown_interleaved : (colourImage #v[6, 1, 2]).sanityCheck = true ∧
    GpuImageTransportNode.publishFrame (colourImage #v[6, 1, 2]) 12 countedBytes =
      some colourMessage ∧
    ¬ RawShows (colourImage #v[6, 1, 2]) countedBytes.toList colourMessage ∧
    GpuImageTransportCompressedNode.publishFrame openCvMacros "PNG" (colourImage #v[6, 1, 2]) 12
      countedBytes = some colourMat ∧
    ¬ MatShows openCvMacros (colourImage #v[6, 1, 2]) countedBytes.toList colourMat := by
  refine ⟨by decide +kernel, by decide +kernel, ?_, by decide +kernel, ?_⟩
  · intro shows
    have place := (shows.element 0 0 1 (by decide) (by decide) (by decide)).2.2.1
    exact absurd place (by decide)
  · intro shows
    have place := (shows.element 0 0 1 (by decide) (by decide) (by decide)).2
    exact absurd place (by decide)

end Ros2CudaIpc
